import BraceTemplate.Value.Host

/-!
Functions of the data that a host may provide.
-/

namespace BraceTemplate.HostFunction

variable {Held : Type}

def returning (held : Held) : HostFunction Held :=
  ⟨[], .value held⟩

def lookingUp (path : String) : HostFunction Held :=
  ⟨[], .lookup path⟩

def failing (message : String) : HostFunction Held :=
  ⟨[], .error (.function message)⟩

def failingAfter (written message : String) : HostFunction Held :=
  ⟨[.write written], .error (.function message)⟩

def halting (message : String) : HostFunction Held :=
  ⟨[.fail (.function message)], .handle⟩

def writing (text : String) : HostFunction Held :=
  ⟨[.write text], .handle⟩

def silent : HostFunction Held :=
  ⟨[], .handle⟩

instance : Inhabited (HostFunction Held) := ⟨silent⟩

def listing : HostFunction Held :=
  ⟨[.writeParams], .handle⟩

def framing (text : String) : HostFunction Held :=
  ⟨HostAction.frame text, .handle⟩

def waiting (slot : String) : HostFunction Held :=
  ⟨[.fork slot], .handle⟩

end BraceTemplate.HostFunction
