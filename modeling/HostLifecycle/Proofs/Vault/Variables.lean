import HostLifecycle.Proofs.Reconciliation.Validity
import HostLifecycle.Proofs.Value.Fields
import HostLifecycle.Vault.SecretStore

/-!
Secrets in the variables of the process. A store without a server reads each credential from three
variables of its own, and lays them out under the keys that the judgement of a credential asks for,
in the same order. So what is missing of the credential is what the variables lack, and a rotation
is a change of one of them. A variable whose bytes are no UTF-8 can be judged but not be remembered.
-/

namespace HostLifecycle

namespace Vault.SecretStore

open Settings Reconciliation

/-- The names of the variables of a credential, in the order name, public key, private key. -/
def variableNames (kind : CredentialKind) : List Text :=
  [variableStart kind ++ "_NAME", variableStart kind ++ "_PUBLIC_KEY",
    variableStart kind ++ "_PRIVATE_KEY"]

/-- The keys of a credential, and the variables that they stand for. -/
def places (store : SecretStore) (kind : CredentialKind) : List (Text × Text) :=
  store.ssh.requiredKeys.zip (variableNames kind)

/-- What the variables of a credential hold, under the keys that stand for them. -/
def layout (store : SecretStore) (environment : Environment) (kind : CredentialKind) :
    Fields Text :=
  (store.places kind).map fun place => (place.1, environment.named place.2)

def emptyKeys (store : SecretStore) (environment : Environment) (kind : CredentialKind) :
    List Text :=
  ((store.places kind).filter fun place => environment.named place.2 == "").map Prod.fst

/-- Whether the variables of a credential hold the same in two environments wherever what they hold
has one digest. -/
def CollisionFree (kind : CredentialKind) (environment other : Environment) : Prop :=
  ∀ name ∈ variableNames kind, ∀ name' ∈ variableNames kind,
    Digest.ofText? (environment.named name) = Digest.ofText? (other.named name') →
    environment.named name = other.named name'

def HoldsUtf8 (kind : CredentialKind) (environment : Environment) : Prop :=
  ∀ name ∈ variableNames kind, (environment.named name).isWhole = true

variable {store : SecretStore} {environment other : Environment} {kind : CredentialKind}

theorem forall_places {property : Text → Prop} :
    (∀ place ∈ store.places kind, property place.2) ↔
      ∀ name ∈ variableNames kind, property name := by
  simp [places, variableNames, SshSettings.requiredKeys]

theorem emptyKeys_eq_nil_iff :
    store.emptyKeys environment kind = [] ↔
      ∀ name ∈ variableNames kind, environment.named name ≠ "" := by
  rw [← @forall_places store kind, emptyKeys, List.map_eq_nil_iff, List.filter_eq_nil_iff]
  simp

def held (store : SecretStore) (hkeys : store.ssh.requiredKeys.Nodup) (environment : Environment)
    (kind : CredentialKind) : Secret :=
  ⟨"env:" ++ variableStart kind, store.layout environment kind, hkeys⟩

variable (hkeys : store.ssh.requiredKeys.Nodup)

include hkeys in
theorem get?_layout (environment : Environment) {place : Text × Text}
    (hplace : place ∈ store.places kind) :
    (store.layout environment kind).get? place.1 =
      some (environment.named place.2) := by
  have hnames : (store.layout environment kind).names.Nodup := hkeys
  exact Fields.get?_of_mem hnames (List.mem_map_of_mem hplace)

include hkeys in
/-- Two layouts are the same exactly if the variables are. -/
theorem layout_same_iff : (store.layout environment kind).Same (store.layout other kind) ↔
    ∀ name ∈ variableNames kind, environment.named name = other.named name := by
  rw [← @forall_places store kind]
  constructor
  · intro h place hplace
    have hfound := h place.1
    rw [get?_layout hkeys environment hplace, get?_layout hkeys other hplace,
      Option.some.injEq] at hfound
    exact hfound
  · intro h key
    have hlayout : store.layout environment kind = store.layout other kind := by
      apply List.map_congr_left
      intro place hplace
      rw [h place hplace]
    rw [hlayout]

theorem missing_held : (store.held hkeys environment kind).missing store.ssh.requiredKeys =
    store.emptyKeys environment kind := by
  have hmissing : (store.held hkeys environment kind).missing store.ssh.requiredKeys =
      ((store.layout environment kind).filter fun entry => entry.2 == ("" : Text)).map Prod.fst :=
    (store.held hkeys environment kind).missing_names
  rw [hmissing, layout, emptyKeys, List.filter_map, List.map_map]
  rfl

theorem hasDigests_held (hutf8 : HoldsUtf8 kind environment) :
    (store.held hkeys environment kind).HasDigests := by
  intro entry hentry
  obtain ⟨place, hplace, rfl⟩ := List.mem_map.mp hentry
  exact (@forall_places store kind _).mpr hutf8 place hplace

/-- A credential is found exactly if one of its variables holds something. -/
theorem inVariables_eq : store.inVariables environment (variableStart kind) =
    if ∀ name ∈ variableNames kind, environment.named name = "" then none
    else some (store.held hkeys environment kind).credential := by
  have hdata : Fields.ofPairs (store.layout environment kind) = store.layout environment kind :=
    Fields.ofPairs_of_nodup hkeys
  have hall : (store.layout environment kind).all (fun entry => entry.2 == ("" : Text)) = true ↔
      ∀ name ∈ variableNames kind, environment.named name = "" := by
    rw [List.all_eq_true, layout, List.forall_mem_map, ← @forall_places store kind]
    simp
  have hread : store.inVariables environment (variableStart kind) =
      if (Fields.ofPairs (store.layout environment kind)).all fun entry => entry.2 == ("" : Text)
      then none
      else some ⟨.str ("env:" ++ variableStart kind),
        .object ((Fields.ofPairs (store.layout environment kind)).map fun entry =>
          (entry.1, .str entry.2))⟩ := rfl
  rw [hread, hdata]
  by_cases hempty : ∀ name ∈ variableNames kind, environment.named name = ""
  · rw [if_pos (hall.mpr hempty), if_pos hempty]
  · rw [if_neg (mt hall.mp hempty), if_neg hempty]
    rfl

/-- What a store without a server and a judgement that asks for its keys make of the variables of a
credential. -/
structure AgreesOn (store : SecretStore) (service : Service) (environment : Environment)
    (kind : CredentialKind) : Prop where
  /-- Without anything in the variables there is no credential. -/
  absent : store.inVariables environment (variableStart kind) = none ↔
    ∀ name ∈ variableNames kind, environment.named name = ""
  /-- No other variable is read. -/
  own : ∀ other : Environment,
    (∀ name ∈ variableNames kind, environment.named name = other.named name) →
    store.inVariables environment (variableStart kind) =
      store.inVariables other (variableStart kind)
  named : ∀ credential, store.inVariables environment (variableStart kind) = some credential →
    credential.name = .str ("env:" ++ variableStart kind)
  accepted : ∀ credential site,
    store.inVariables environment (variableStart kind) = some credential →
    (((Site.validate service kind (some credential)).runOn site).1 = .ok .complete ↔
      (∀ name ∈ variableNames kind, environment.named name ≠ "") ∧
        ∃ parts : PublicKey.Parts, parts.text =
          (environment.named (variableStart kind ++ "_PUBLIC_KEY")).strip)
  /-- The keys of the empty variables are missing, in their order. -/
  refused : ∀ credential site,
    store.inVariables environment (variableStart kind) = some credential → site.TellsFailures →
    ((Site.validate service kind (some credential)).runOn site).1 ≠ .ok .complete →
    ((Site.validate service kind (some credential)).runOn site).1 =
      .ok (.failed (.lifecycle (.terminal .preparation (.str (problemMessage kind credential
        (if store.emptyKeys environment kind = [] then .publicKey
          else .missing (store.emptyKeys environment kind)))))))
  /-- What is remembered recognizes the credential as long as none of the variables changes. -/
  rotation : ∀ (other : Environment) credential credential',
    store.inVariables environment (variableStart kind) = some credential →
    store.inVariables other (variableStart kind) = some credential' →
    HoldsUtf8 kind environment → HoldsUtf8 kind other →
    CollisionFree kind environment other →
    ∃ seen same, SecretStatus.ofCredential credential = .ok seen ∧
      seen.agrees credential' = .ok same ∧
      (same = true ↔ ∀ name ∈ variableNames kind, environment.named name = other.named name)
  /-- What is no UTF-8 is not remembered. -/
  halved : ∀ credential,
    store.inVariables environment (variableStart kind) = some credential →
    ¬ HoldsUtf8 kind environment → SecretStatus.ofCredential credential = .error .unencodable

include hkeys in
theorem eq_of_inVariables {credential : Credential}
    (h : store.inVariables environment (variableStart kind) = some credential) :
    credential = (store.held hkeys environment kind).credential := by
  rw [inVariables_eq hkeys] at h
  split at h
  · cases h
  · exact (Option.some.inj h).symm

theorem value_held_publicKey : (store.held hkeys environment kind).value store.ssh.publicKeyKey =
    environment.named (variableStart kind ++ "_PUBLIC_KEY") := by
  have hplace : (store.ssh.publicKeyKey, variableStart kind ++ "_PUBLIC_KEY") ∈
      store.places kind := by
    simp [places, variableNames, SshSettings.requiredKeys]
  have hfound := get?_layout hkeys environment hplace
  rw [Secret.value, held, hfound]
  rfl

theorem collisionFree_held (hfree : CollisionFree kind environment other) :
    (store.held hkeys environment kind).CollisionFree (store.held hkeys other kind) := by
  intro entry hentry entry' hentry'
  obtain ⟨place, hplace, rfl⟩ := List.mem_map.mp hentry
  obtain ⟨place', hplace', rfl⟩ := List.mem_map.mp hentry'
  have hname : ∀ place ∈ store.places kind, place.2 ∈ variableNames kind :=
    (@forall_places store kind _).mpr fun _ => id
  intro hdigest
  rw [hfree _ (hname place hplace) _ (hname place' hplace') hdigest]

/-- The secret in the variables can be used if none of them is empty and a public key stands where
it is looked for. -/
theorem problem?_held_eq_none_iff : (store.held hkeys environment kind).problem?
      store.ssh.requiredKeys store.ssh.publicKeyKey = none ↔
    (∀ name ∈ variableNames kind, environment.named name ≠ "") ∧
      ∃ parts : PublicKey.Parts, parts.text =
        (environment.named (variableStart kind ++ "_PUBLIC_KEY")).strip := by
  rw [Secret.problem?_eq_none_iff, ← Secret.missing_eq_nil_iff, missing_held, emptyKeys_eq_nil_iff,
    value_held_publicKey, PublicKey.accepts_iff]

include hkeys in
theorem rotation_of_variables {credential credential' : Credential}
    (hfound : store.inVariables environment (variableStart kind) = some credential)
    (hfound' : store.inVariables other (variableStart kind) = some credential')
    (hutf8 : HoldsUtf8 kind environment) (hutf8' : HoldsUtf8 kind other)
    (hfree : CollisionFree kind environment other) :
    ∃ seen same, SecretStatus.ofCredential credential = .ok seen ∧
      seen.agrees credential' = .ok same ∧
      (same = true ↔ ∀ name ∈ variableNames kind, environment.named name = other.named name) := by
  obtain rfl := eq_of_inVariables hkeys hfound
  obtain rfl := eq_of_inVariables hkeys hfound'
  have hdata : (store.held hkeys environment kind).data ≠ [] := List.cons_ne_nil _ _
  have hdigests := hasDigests_held hkeys hutf8
  have hdigests' := hasDigests_held hkeys hutf8'
  have hrecognizes := Secret.recognizes_iff hdigests hdigests' (collisionFree_held hkeys hfree)
  refine ⟨_, _, Secret.ofCredential_credential hdata hdigests, Secret.agrees_credential hdigests',
    hrecognizes.trans ?_⟩
  rw [← layout_same_iff hkeys]
  exact and_iff_right rfl

include hkeys in
theorem ofCredential_of_halved {credential : Credential}
    (hfound : store.inVariables environment (variableStart kind) = some credential)
    (hhalved : ¬ HoldsUtf8 kind environment) :
    SecretStatus.ofCredential credential = .error .unencodable := by
  obtain rfl := eq_of_inVariables hkeys hfound
  refine Secret.ofCredential_of_halved fun hdigests => hhalved ?_
  refine (@forall_places store kind _).mp fun place hplace => ?_
  exact hdigests _ (List.mem_map_of_mem hplace)

include hkeys in
/-- The keys under which a store lays out the variables are those that are asked for. -/
theorem agreesOn_of_requiredKeys {service : Service}
    (hservice : service.requiredKeys = store.ssh.requiredKeys.map .str)
    (hjudgement : service.judgement kind = none) (environment : Environment) :
    store.AgreesOn service environment kind where
  absent := by
    rw [inVariables_eq hkeys]
    split <;> simp_all
  own other h := by
    simp only [variableNames, List.forall_mem_cons] at h
    obtain ⟨hname, hpublicKey, hprivateKey, -⟩ := h
    rw [inVariables, inVariables, hname, hpublicKey, hprivateKey]
  named credential hfound := by
    rw [eq_of_inVariables hkeys hfound]
    rfl
  accepted credential site hfound := by
    rw [eq_of_inVariables hkeys hfound,
      Site.validate_secret_complete_iff hjudgement hservice]
    exact problem?_held_eq_none_iff hkeys
  refused credential site hfound htells hrefused := by
    rw [eq_of_inVariables hkeys hfound] at hrefused ⊢
    cases hproblem : (store.held hkeys environment kind).problem? store.ssh.requiredKeys
        store.ssh.publicKeyKey with
    | none =>
      have hcomplete := (Site.validate_secret_complete_iff hjudgement hservice _ site).mpr hproblem
      exact absurd hcomplete hrefused
    | some problem =>
      have hcause := Secret.eq_of_problem? hproblem
      rw [missing_held] at hcause
      rw [← hcause]
      exact htells.result_validate_secret hjudgement hservice hproblem
  rotation other credential credential' := rotation_of_variables hkeys
  halved credential := ofCredential_of_halved hkeys

/-- Without a server both credentials come from the variables, and the session is not touched. As
long as the three key names are different and the judgement asks for the same ones, whatever they
are, the two agree on where the parts of each credential stand. What is missing is reported where
a failure can be told, and a change of the variables is seen where they hold UTF-8. -/
theorem fetched_from_variables (hdisabled : store.vault.enabled = false)
    (hkeys : store.ssh.requiredKeys.Nodup) {service : Service}
    (hservice : service.requiredKeys = store.ssh.requiredKeys.map .str)
    (hjudgement : ∀ kind, service.judgement kind = none) (environment : Environment)
    (session : Session) :
    (store.fetch environment).runOn session =
      (.ok (store.inVariables environment (variableStart .os),
        store.inVariables environment (variableStart .rescue)), session) ∧
    ∀ kind, store.AgreesOn service environment kind := by
  refine ⟨?_, fun kind => agreesOn_of_requiredKeys hkeys hservice (hjudgement kind) environment⟩
  have hone : ∀ kind, store.fetchOne environment kind =
      pure (store.inVariables environment (variableStart kind)) := by
    intro kind
    simp [fetchOne, hdisabled]
  rw [fetch, hone, hone]
  rfl

/-- A store whose key names are exchanged for each other. What the variables of a credential lack is
missing under the keys that stand for them. -/
theorem fetched_from_variables_exchanged :
    let ssh : SshSettings := ⟨"", "", "private-key", "name", "public-key"⟩
    let store : SecretStore := ⟨⟨false, "", "", "", "", "", ""⟩, ssh⟩
    let service : Service := ⟨ssh.requiredKeys.map .str, fun _ => none⟩
    let environment : Environment :=
      [("OS_SSH_NAME", "n"), ("OS_SSH_PUBLIC_KEY", "ssh-rsa AAAA"), ("OS_SSH_PRIVATE_KEY", "k"),
        ("RESCUE_SSH_PUBLIC_KEY", "ssh-rsa AAAA")]
    let site := (Machine.fresh (HostRecord.new (.str "bm-1"))).site
    ∃ os rescue,
      ((store.fetch environment).runOn (Session.start Server.empty)).1 =
        .ok (some os, some rescue) ∧
      ((Site.validate service .os (some os)).runOn site).1 = .ok .complete ∧
      ((Site.validate service .rescue (some rescue)).runOn site).1 =
        .ok (.failed (.lifecycle (.terminal .preparation (.str (problemMessage .rescue rescue
          (.missing ["private-key", "public-key"])))))) := by
  intro ssh store service environment site
  obtain ⟨hfetch, hagrees⟩ := @fetched_from_variables store rfl (by decide) service rfl
    (fun _ => rfl) environment (Session.start Server.empty)
  have htells : site.TellsFailures :=
    ⟨⟨0, rfl⟩, rfl, Audit.Trail.takesEvents_of_none rfl⟩
  cases hos : store.inVariables environment (variableStart .os) with
  | none => exact absurd ((hagrees .os).absent.mp hos) (by decide)
  | some os =>
    cases hrescue : store.inVariables environment (variableStart .rescue) with
    | none => exact absurd ((hagrees .rescue).absent.mp hrescue) (by decide)
    | some rescue =>
      rw [hos, hrescue] at hfetch
      refine ⟨os, rescue, congrArg Prod.fst hfetch, ?_, ?_⟩
      · exact ((hagrees .os).accepted os site hos).mpr
          ⟨by decide, PublicKey.accepts_iff.mp (by decide)⟩
      · have hrefused := mt ((hagrees .rescue).accepted rescue site hrescue).mp
          fun h => absurd h.1 (by decide)
        exact (hagrees .rescue).refused rescue site hrescue htells hrefused

/-- A private key with a byte that is no UTF-8, which is accepted but cannot be remembered, and a
name alone, at a host whose errors are counted by a text, where what is missing is not reported. -/
theorem unremembered_variables :
    let ssh : SshSettings := ⟨"", "", "name", "public-key", "private-key"⟩
    let store : SecretStore := ⟨⟨false, "", "", "", "", "", ""⟩, ssh⟩
    let service : Service := ⟨ssh.requiredKeys.map .str, fun _ => none⟩
    let host := HostRecord.new (.str "bm-1")
    (∃ os, store.inVariables [("OS_SSH_NAME", "n"), ("OS_SSH_PUBLIC_KEY", "ssh-rsa AAAA"),
        ("OS_SSH_PRIVATE_KEY", [.half 1279])] (variableStart .os) = some os ∧
      ((Site.validate service .os (some os)).runOn (Machine.fresh host).site).1 =
        .ok .complete ∧
      SecretStatus.ofCredential os = .error .unencodable) ∧
    ∃ os, store.inVariables [("OS_SSH_NAME", "n")] (variableStart .os) = some os ∧
      ((Site.validate service .os (some os)).runOn
        (Machine.fresh { host with errorCount := .str "many" }).site).1 = .error .wrongType := by
  intro ssh store service host
  exact ⟨⟨_, rfl, rfl, rfl⟩, _, rfl, rfl⟩

end Vault.SecretStore

end HostLifecycle
