import HostLifecycle.Proofs.Credential.Grammar
import HostLifecycle.Proofs.Credential.Secret
import HostLifecycle.Proofs.Reconciliation.Failing

/-!
Which secrets can be used, and what becomes of the others. The usual judgement of a secret depends
on what it holds under the required keys and on nothing around the host. A secret is accepted
exactly if it holds something under each of them, and under the second one a public key in its
written form, with whatever blanks around it. Any other one is a terminal failure that names its
cause.
-/

namespace HostLifecycle

open Attempt Reconciliation Text

/-- The required keys under which a mapping of texts holds nothing, in their order. -/
theorem missingKeys_texts (data : Fields Text) (keys : List Text) :
    missingKeys (.object (data.map fun entry => (entry.1, .str entry.2))) (keys.map .str) =
      .ok (keys.filter fun key => (data.get? key).getD "" == "") := by
  induction keys with
  | nil => rfl
  | cons key rest ih =>
    rw [List.map_cons, missingKeys, ih, List.filter_cons, Value.under?_str,
      Fields.get?_map Value.str]
    cases data.get? key with
    | none => rfl
    | some text =>
      by_cases htext : text = ""
      · subst htext
        rfl
      · simp [htext, Value.isTruthy, bind, Except.bind, pure, Except.pure]

namespace Secret

/-- What keeps a secret from being used: required keys that are missing, or else a public key of
another form. -/
def problem? (keys : List Text) (publicKey : Text) (secret : Secret) : Option CredentialProblem :=
  if secret.missing keys = [] then
    if PublicKey.accepts (secret.value publicKey) then none else some .publicKey
  else some (.missing (secret.missing keys))

/-- A secret that differs from another one in nothing but blanks around what it holds under a
key. -/
structure Pads (key : Text) (secret other : Secret) : Prop where
  padded : ∃ before after : Text, (∀ c ∈ before, c.isIn isBlank = true) ∧
    (∀ c ∈ after, c.isIn isBlank = true) ∧
    secret.value key = before ++ other.value key ++ after
  others : ∀ another, another ≠ key → secret.value another = other.value another

variable {secret other : Secret} {keys rest : List Text} {name publicKey : Text}

theorem missing_eq_nil_iff : secret.missing keys = [] ↔ ∀ key ∈ keys, secret.value key ≠ "" := by
  simp [missing, List.filter_eq_nil_iff]

theorem problem?_eq_none_iff : secret.problem? keys publicKey = none ↔
    (∀ key ∈ keys, secret.value key ≠ "") ∧ PublicKey.accepts (secret.value publicKey) = true := by
  rw [← missing_eq_nil_iff, problem?]
  split <;> simp_all

/-- The missing keys come ahead of the form of the public key. -/
theorem eq_of_problem? {problem : CredentialProblem}
    (h : secret.problem? keys publicKey = some problem) :
    problem = if secret.missing keys = [] then .publicKey else .missing (secret.missing keys) := by
  rw [problem?] at h
  split at h <;> simp_all

/-- Something is stored under a key that is not missing. -/
theorem get?_of_value_ne {key : Text} (h : secret.value key ≠ "") :
    secret.data.get? key = some (secret.value key) := by
  rw [value] at h ⊢
  cases hfound : secret.data.get? key with
  | none => exact absurd (congrArg (·.getD "") hfound) h
  | some text => rfl

theorem credentialProblem_credential (secret : Secret) (name publicKey : Text)
    (rest : List Text) :
    credentialProblem ((name :: publicKey :: rest).map .str) secret.credential =
      .ok (secret.problem? (name :: publicKey :: rest) publicKey) := by
  have hmissing : missingKeys secret.credential.data
      ((name :: publicKey :: rest).map .str) = .ok (secret.missing (name :: publicKey :: rest)) :=
    missingKeys_texts _ _
  rw [credentialProblem, hmissing, problem?]
  cases hkeys : secret.missing (name :: publicKey :: rest) with
  | cons first others => rfl
  | nil =>
    have hstored := missing_eq_nil_iff.mp hkeys publicKey (by simp)
    have hread : publicKeyOf secret.credential.data
        ((name :: publicKey :: rest).map .str) = .ok (secret.value publicKey) := by
      rw [List.map_cons, List.map_cons, publicKeyOf, credential, Value.under?_str,
        Fields.get?_map Value.str, get?_of_value_ne hstored]
      rfl
    simp only [bind, Except.bind, hread, pure, Except.pure, if_true]

/-- Blanks around the public key make no difference to whether a secret can be used. -/
theorem Pads.problem?_eq_none_iff (h : secret.Pads publicKey other) :
    secret.problem? keys publicKey = none ↔ other.problem? keys publicKey = none := by
  obtain ⟨before, after, hbefore, hafter, hpadded⟩ := h.padded
  have haccepts : PublicKey.accepts (secret.value publicKey) =
      PublicKey.accepts (other.value publicKey) := by
    rw [hpadded]
    exact PublicKey.accepts_padded _ hbefore hafter
  rw [Secret.problem?_eq_none_iff, Secret.problem?_eq_none_iff, haccepts]
  apply and_congr_left
  intro haccepted
  have hne : ∀ text, PublicKey.accepts text = true → text ≠ "" := by
    rintro text htext rfl
    rw [PublicKey.accepts_empty] at htext
    cases htext
  apply forall₂_congr
  intro key _
  by_cases hkey : key = publicKey
  · subst hkey
    exact iff_of_true (hne _ (haccepts.trans haccepted)) (hne _ haccepted)
  · rw [h.others key hkey]

end Secret

namespace Reconciliation.Site

variable {service : Service} {kind : CredentialKind} {name publicKey : Text} {rest : List Text}

/-- The usual judgement of a secret: it completes and leaves everything as it is, or the problem is
a terminal failure. -/
theorem runOn_validate_secret (hjudgement : service.judgement kind = none)
    (hkeys : service.requiredKeys = (name :: publicKey :: rest).map .str) (secret : Secret)
    (site : Site) :
    (validate service kind (some secret.credential)).runOn site =
      match secret.problem? (name :: publicKey :: rest) publicKey with
      | none => (.ok .complete, site)
      | some problem => (enter (.invalid kind secret.credential problem)).runOn site := by
  simp only [validate, hjudgement]
  rw [inspect, runOn_bind, runOn_ofExcept, hkeys, secret.credentialProblem_credential]
  cases secret.problem? (name :: publicKey :: rest) publicKey <;> rfl

theorem validate_secret_complete_iff (hjudgement : service.judgement kind = none)
    (hkeys : service.requiredKeys = (name :: publicKey :: rest).map .str) (secret : Secret)
    (site : Site) :
    ((validate service kind (some secret.credential)).runOn site).1 = .ok .complete ↔
      secret.problem? (name :: publicKey :: rest) publicKey = none := by
  rw [validate_complete_iff, Service.Accepts, hjudgement, hkeys]
  simp only
  rw [secret.credentialProblem_credential, Except.ok.injEq]

/-- Where failures can be told and counted, a problem is the one of a failure of the
preparation. -/
theorem TellsFailures.result_validate_secret {site : Site} (h : site.TellsFailures)
    (hjudgement : service.judgement kind = none)
    (hkeys : service.requiredKeys = (name :: publicKey :: rest).map .str) {secret : Secret}
    {problem : CredentialProblem}
    (hproblem : secret.problem? (name :: publicKey :: rest) publicKey = some problem) :
    ((validate service kind (some secret.credential)).runOn site).1 =
      .ok (.failed (.lifecycle (.terminal .preparation
        (.str (problemMessage kind secret.credential problem))))) := by
  have hrun := runOn_validate_secret hjudgement hkeys secret site
  rw [hproblem] at hrun
  obtain ⟨trail, count, -, henter, -⟩ := h.runOn_enter (.invalid kind secret.credential problem)
  exact congrArg Prod.fst (hrun.trans henter)

/-- A secret is accepted exactly if it holds something under every required key, and a public key
under the second one, apart from blanks around it. Nothing around the host is touched then.
Whatever host can tell and count its failures fails for good with any other secret, and the message
lists the keys under which nothing is held, or says that the public key has another form. Blanks
around the public key never make a difference. -/
theorem validates_by_grammar (hjudgement : service.judgement kind = none)
    (hkeys : service.requiredKeys = (name :: publicKey :: rest).map .str) (secret : Secret)
    (site : Site) :
    let keys := name :: publicKey :: rest
    let run := (validate service kind (some secret.credential)).runOn site
    let fits := (∀ key ∈ keys, secret.value key ≠ "") ∧
      ∃ parts : PublicKey.Parts, parts.text = (secret.value publicKey).strip
    (run.1 = .ok .complete ↔ fits) ∧ (fits → run = (.ok .complete, site)) ∧
    (¬ fits → site.TellsFailures → ∃ outcome problem, run.1 = .ok outcome ∧
      outcome.isFatal = true ∧
      outcome = .failed (.lifecycle (.terminal .preparation
        (.str (problemMessage kind secret.credential problem)))) ∧
      problem = if secret.missing keys = [] then .publicKey else .missing (secret.missing keys)) ∧
    ∀ padded : Secret, padded.Pads publicKey secret →
      (((validate service kind (some padded.credential)).runOn site).1 = .ok .complete ↔
        run.1 = .ok .complete) := by
  intro keys run fits
  have hfits : secret.problem? keys publicKey = none ↔ fits := by
    rw [Secret.problem?_eq_none_iff, PublicKey.accepts_iff]
  have hcomplete : run.1 = .ok .complete ↔ secret.problem? keys publicKey = none :=
    validate_secret_complete_iff hjudgement hkeys secret site
  refine ⟨hcomplete.trans hfits, fun h => ?_, fun h htells => ?_, fun padded hpads => ?_⟩
  · have hrun := runOn_validate_secret hjudgement hkeys secret site
    rw [hfits.mpr h] at hrun
    exact hrun
  · cases hproblem : secret.problem? keys publicKey with
    | none => exact absurd (hfits.mp hproblem) h
    | some problem =>
      have hresult := htells.result_validate_secret hjudgement hkeys hproblem
      exact ⟨_, problem, hresult, rfl, rfl, Secret.eq_of_problem? hproblem⟩
  · rw [hcomplete, ← hpads.problem?_eq_none_iff]
    exact validate_secret_complete_iff hjudgement hkeys padded site

/-- A secret whose public key stands between blanks, and one that holds nothing but a public key. -/
theorem validates_by_grammar_between_blanks :
    let service : Service := ⟨[.str "name", .str "public-key", .str "private-key"], fun _ => none⟩
    let secret : Secret := ⟨"os",
      [("name", "n"), ("public-key", "\tssh-rsa AAAA== me\n"), ("private-key", "k")], by decide⟩
    let other : Secret := ⟨"os", [("public-key", "ssh-rsa AAAA")], by decide⟩
    let site := (Machine.fresh (HostRecord.new (.str "bm-1"))).site
    (validate service .os (some secret.credential)).runOn site = (.ok .complete, site) ∧
    ((validate service .os (some other.credential)).runOn site).1 =
      .ok (.failed (.lifecycle (.terminal .preparation
        (.str "os ssh credential 'os' is invalid: missing data keys name, private-key")))) := by
  intro service secret other site
  have htells : site.TellsFailures :=
    ⟨⟨0, rfl⟩, rfl, Audit.Trail.takesEvents_of_none rfl⟩
  have hgrammar := fun secret =>
    @validates_by_grammar service .os "name" "public-key" ["private-key"] rfl rfl secret site
  refine ⟨(hgrammar secret).2.1 ⟨by decide, PublicKey.accepts_iff.mp (by decide)⟩, ?_⟩
  obtain ⟨outcome, problem, hresult, -, rfl, hproblem⟩ :=
    (hgrammar other).2.2.1 (fun hfits => absurd hfits.1 (by decide)) htells
  have hmissing : problem = .missing ["name", "private-key"] := hproblem.trans (by decide)
  have hmessage : problemMessage .os other.credential (.missing ["name", "private-key"]) =
      "os ssh credential 'os' is invalid: missing data keys name, private-key" := by decide
  rw [hmissing, hmessage] at hresult
  exact hresult

/-- What is accepted as a public key has as many lines as there are line feeds in its gap and in the
space ahead of its comment, and one more. So it stands on one line exactly if both of these do. -/
theorem lines_of_validated (hjudgement : service.judgement kind = none)
    (hkeys : service.requiredKeys = (name :: publicKey :: rest).map .str) {secret : Secret}
    {site : Site}
    (hcomplete : ((validate service kind (some secret.credential)).runOn site).1 =
      .ok .complete) :
    let key := (secret.value publicKey).strip
    ∃ parts : PublicKey.Parts, parts.text = key ∧
      (pieces (.char '\n') key).length =
        parts.gap.count (.char '\n') + parts.space.count (.char '\n') + 1 ∧
      (pieces (.char '\n') key = [key] ↔
        .char '\n' ∉ parts.gap ∧ .char '\n' ∉ parts.space) := by
  intro key
  have hnone := (validate_secret_complete_iff hjudgement hkeys secret site).mp hcomplete
  obtain ⟨parts, hparts⟩ : ∃ parts : PublicKey.Parts, parts.text = key :=
    PublicKey.accepts_iff.mp (Secret.problem?_eq_none_iff.mp hnone).2
  have hcount := parts.count_line
  refine ⟨parts, hparts, ?_, ?_⟩
  · rw [length_pieces, ← hcount, hparts]
  · rw [pieces_eq_singleton_iff, ← List.count_eq_zero, ← List.count_eq_zero,
      ← List.count_eq_zero, ← hparts, hcount]
    omega

/-- Two public keys on two lines are accepted as one: the second one is taken for a comment. -/
theorem lines_of_validated_two :
    let service : Service := ⟨[.str "name", .str "public-key"], fun _ => none⟩
    let secret : Secret :=
      ⟨"os", [("name", "n"), ("public-key", "ssh-rsa AAAA\nssh-rsa BBBB")], by decide⟩
    let site := (Machine.fresh (HostRecord.new (.str "bm-1"))).site
    ((validate service .os (some secret.credential)).runOn site).1 = .ok .complete ∧
    pieces (.char '\n') (secret.value "public-key").strip = ["ssh-rsa AAAA", "ssh-rsa BBBB"] ∧
    ∃ parts : PublicKey.Parts, parts.text = (secret.value "public-key").strip ∧
      ¬ (.char '\n' ∉ parts.gap ∧ .char '\n' ∉ parts.space) := by
  intro service secret site
  have hcomplete : ((validate service .os (some secret.credential)).runOn site).1 =
      .ok .complete :=
    (@validate_secret_complete_iff service .os "name" "public-key" [] rfl rfl secret site).mpr
      (by decide)
  have hlines : pieces (.char '\n') (secret.value "public-key").strip =
      ["ssh-rsa AAAA", "ssh-rsa BBBB"] := by decide
  obtain ⟨parts, hparts, -, hline⟩ :=
    @lines_of_validated service .os "name" "public-key" [] rfl rfl secret site hcomplete
  refine ⟨hcomplete, hlines, parts, hparts, fun hnone => ?_⟩
  have hone := hline.mpr hnone
  rw [hlines] at hone
  exact absurd (congrArg List.length hone) (by decide)

end Reconciliation.Site

end HostLifecycle
