import HostLifecycle.Fault
import HostLifecycle.Storage.Path
import HostLifecycle.Text.Blank

/-!
Paths that start at a home folder. The first name of such a path is a tilde, alone for
the home of the process, or with the name of an account behind it for the home of that
account.
-/

namespace HostLifecycle.Storage

def accountHomes : Fields Text :=
  [("root", "/root"), ("daemon", "/usr/sbin"), ("bin", "/bin"), ("sys", "/dev"),
   ("sync", "/bin"), ("games", "/usr/games"), ("man", "/var/cache/man"),
   ("lp", "/var/spool/lpd"), ("mail", "/var/mail"), ("news", "/var/spool/news"),
   ("uucp", "/var/spool/uucp"), ("proxy", "/bin"), ("www-data", "/var/www"),
   ("backup", "/var/backups"), ("list", "/var/list"), ("irc", "/run/ircd"),
   ("_apt", "/nonexistent"), ("nobody", "/nonexistent")]

def homeless : Fault := .runtime "Could not determine home directory."

def accountHome (account : Text) : Except Fault Text :=
  if account.contains '\x00' then .error (.invalid .embeddedNull)
  else if !account.isWhole then .error .unencodable
  else
    match accountHomes.get? account with
    | some home => .ok home
    | none => .error homeless

/-- The home that a name with a tilde in front stands for. The home of the process is
given unless it is that of the first account. -/
def homeNamed (own : Option Text) (account : Text) : Except Fault Text :=
  match account, own with
  | [], some home => .ok home
  | [], none => accountHome "root"
  | account, _ => accountHome account

namespace Path

/-- The path of a home and further names. Slashes at the end of a home do not count, and
a home of nothing else is the root; one that starts with a tilde again is none. -/
def below (home : Text) (names : List Text) : Except Fault Path :=
  match Text.dropEndWhile (· == .char '/') home with
  | [] => .ok ⟨"/", names⟩
  | .char '~' :: _ => .error homeless
  | home =>
    let start := ofText home
    .ok { start with names := start.names ++ names }

/-- The path with the home folder that it starts at, if it starts at one. -/
def fromHome (own : Option Text) (path : Path) : Except Fault Path :=
  match path.root, path.names with
  | [], (.char '~' :: account) :: names => do
    let home ← homeNamed own account
    below home names
  | _, _ => .ok path

end Path

end HostLifecycle.Storage
