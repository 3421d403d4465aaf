import BraceTemplate.Template.Node
import BraceTemplate.Value.Host

/-!
Helpers that a host may add to an engine. A helper that renders a body does nothing where the body
is missing.
-/

namespace BraceTemplate.HostHelper

def doing (actions : List HostAction) : HostHelper :=
  ⟨actions, none⟩

def tapping (change : String → String) : HostHelper :=
  doing [.renderTapped mainBody change false]

def tappingOn (change : String → String) : HostHelper :=
  doing [.renderTapped mainBody change true]

def echoing (key : String) : HostHelper :=
  doing [.writeParam key]

def listing : HostHelper :=
  doing [.writeParams]

def writing (text : String) : HostHelper :=
  doing [.write text]

def framing (text : String) : HostHelper :=
  doing (HostAction.frame text)

def choosing (body : String) : HostHelper :=
  doing [.renderOr body "[empty]" "[none]"]

def failing (name message : String) : HostHelper :=
  ⟨[], some (.helper name message)⟩

def failingAfter (name written : String) : HostHelper :=
  ⟨[.write written], some (.helper name "after write")⟩

/-- Forks, writes behind the fork, and then fails. -/
def failingForked (name : String) : HostHelper :=
  ⟨[.forkWriting "B", .write "after"], some (.helper name "after map")⟩

def halting (name message : String) : HostHelper :=
  doing [.fail (.helper name message)]

def waiting (slot : String) : HostHelper :=
  doing [.fork slot]

def shouting : HostHelper :=
  doing [.capture mainBody]

def pushing : HostHelper :=
  doing [.render mainBody .pushParams]

def rebasing : HostHelper :=
  doing [.render mainBody .rebaseParams]

def repeating : HostHelper :=
  doing ([0, 1, 2].map fun index => .render mainBody (.pushIndexed ("i" ++ toString index) index 3))

def locating : HostHelper :=
  doing [.writePlace]

def dumping : HostHelper :=
  doing [.writeStack]

def idle : HostHelper :=
  doing []

end BraceTemplate.HostHelper
