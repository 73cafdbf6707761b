import Fanout.Config.Setting

/-!
What a run of the service shows: lines on its output and lines on its error output. Notices are
shown down to the level that is set, and errors go to the error output.
-/

namespace Fanout

structure Console where
  out : List String
  err : List String
  deriving DecidableEq, Repr

namespace Console

def nothing : Console := ⟨[], []⟩

instance : Append Console := ⟨fun a b => ⟨a.out ++ b.out, a.err ++ b.err⟩⟩

end Console

def Notice.line (notice : Notice) : String :=
  "[" ++ notice.level.text ++ "] " ++ notice.text ClientId.text

def Console.ofNotice (verbosity : Verbosity) (notice : Notice) : Console :=
  if !verbosity.shows notice.level then .nothing
  else if notice.level = .error then ⟨[], [notice.line]⟩
  else ⟨[notice.line], []⟩

def Console.ofNotices (verbosity : Verbosity) (notices : List Notice) : Console :=
  notices.foldl (fun console notice => console ++ .ofNotice verbosity notice) .nothing

end Fanout
