import Mathlib.Data.List.Induction
import BraceTemplate.Engine.Basic

/-!
# What a registry has been through

Templates are registered under names and taken away, and loaders answer for names. What has happened
decides what is registered: under each name the template that was last registered there since the
name was taken away, or else the one of the first answer since then that is a template.
-/

namespace BraceTemplate

namespace Members

variable {Held : Type} {members : Members Held} {key sought : String} {added : Held}

def Ascend (members : Members Held) : Prop :=
  members.Pairwise fun one other => one.1 < other.1

theorem find?_eq_none_of_forall_ne (absent : ∀ entry ∈ members, entry.1 ≠ key) :
    members.find? key = none := by
  induction members with
  | nil => rfl
  | cons first rest inductionHypothesis =>
      rw [find?_cons, if_neg (absent first List.mem_cons_self)]
      exact inductionHypothesis fun entry member => absent entry (List.mem_cons_of_mem _ member)

theorem Ascend.insert (ascend : members.Ascend) : (members.insert key added).Ascend := by
  induction members with
  | nil => exact List.pairwise_singleton _ _
  | cons first rest inductionHypothesis =>
      obtain ⟨other, held⟩ := first
      obtain ⟨below, ascendRest⟩ := List.pairwise_cons.mp ascend
      unfold Members.insert
      split
      · rename_i same
        subst same
        exact List.pairwise_cons.mpr ⟨below, ascendRest⟩
      · rename_i different
        split
        · rename_i less
          refine List.pairwise_cons.mpr ⟨?_, ascend⟩
          exact List.forall_mem_cons.mpr
            ⟨less, fun entry member => String.lt_trans less (below entry member)⟩
        · rename_i notLess
          have less : other < key := by
            by_contra notGreater
            exact different (String.le_antisymm (String.not_lt.mp notGreater)
              (String.not_lt.mp notLess))
          exact List.pairwise_cons.mpr
            ⟨forall_mem_insert below less, inductionHypothesis ascendRest⟩

theorem erase_sublist : (members.erase key).Sublist members := by
  induction members with
  | nil => exact .slnil
  | cons first rest inductionHypothesis =>
      unfold Members.erase
      split
      · exact List.sublist_cons_self _ _
      · exact inductionHypothesis.cons_cons _

theorem Ascend.erase (ascend : members.Ascend) : (members.erase key).Ascend :=
  List.Pairwise.sublist erase_sublist ascend

/-- What is taken away is gone. -/
theorem Ascend.find?_erase_self (ascend : members.Ascend) :
    (members.erase key).find? key = none := by
  induction members with
  | nil => rfl
  | cons first rest inductionHypothesis =>
      obtain ⟨below, ascendRest⟩ := List.pairwise_cons.mp ascend
      unfold Members.erase
      split
      · rename_i same
        subst same
        refine find?_eq_none_of_forall_ne fun entry member same => ?_
        exact String.lt_irrefl _ (same ▸ below entry member)
      · rename_i different
        rw [find?_cons, if_neg different]
        exact inductionHypothesis ascendRest

theorem find?_erase_of_ne (different : key ≠ sought) :
    (members.erase key).find? sought = members.find? sought := by
  induction members with
  | nil => rfl
  | cons first rest inductionHypothesis =>
      unfold Members.erase
      split
      · rename_i same
        subst same
        rw [find?_cons, if_neg different]
      · rw [find?_cons, find?_cons, inductionHypothesis]

end Members

/-- What happens to a registry. -/
inductive RegistryEvent where
  | registered (name : String) (program : Program)
  | removed (name : String)
  /-- A loader has answered for a name that it was asked for. -/
  | answered (name : String) (answer : Except RenderError String)

namespace RegistryEvent

def removes (name : String) : RegistryEvent → Bool
  | removed other => other == name
  | _ => false

def registers? (name : String) : RegistryEvent → Option Program
  | registered other program => if other = name then some program else none
  | _ => none

def answers? (config : Config) (name : String) : RegistryEvent → Option Program
  | answered other (.ok text) =>
    if other = name then (Program.ofSource config (some name) text).toOption else none
  | _ => none

/-- What an event makes of a registry. An answer replaces nothing. -/
def apply (config : Config) (registry : Members Program) : RegistryEvent → Members Program
  | registered name program => registry.insert name program
  | removed name => registry.erase name
  | answered _ (.error _) => registry
  | answered name (.ok text) =>
    match registry.find? name, Program.ofSource config (some name) text with
    | none, .ok program => registry.insert name program
    | _, _ => registry

end RegistryEvent

def lifetime (name : String) (history : List RegistryEvent) : List RegistryEvent :=
  history.reverse.takeWhile fun event => !event.removes name

/-- The template that a name stands for after a history: the one that was last registered since the
name was last taken away, or else the one of the first answer since then that is a template. -/
def owner? (config : Config) (name : String) (history : List RegistryEvent) : Option Program :=
  ((lifetime name history).findSome? fun event => event.registers? name).or
    ((lifetime name history).reverse.findSome? fun event => event.answers? config name)

/-- What events, one after the other, make of a registry. -/
def replay (config : Config) (registry : Members Program) (events : List RegistryEvent) :
    Members Program :=
  events.foldl (RegistryEvent.apply config) registry

section Replay

variable {config : Config} {name : String} {history : List RegistryEvent} {event : RegistryEvent}
variable {registry : Members Program}

theorem replay_append (first second : List RegistryEvent) :
    replay config registry (first ++ second) =
      replay config (replay config registry first) second :=
  List.foldl_append

theorem replay_append_singleton :
    replay config registry (history ++ [event]) =
      event.apply config (replay config registry history) :=
  replay_append history [event]

theorem RegistryEvent.apply_answered_known {answer : Except RenderError String} {known : Program}
    (found : registry.find? name = some known) :
    RegistryEvent.apply config registry (.answered name answer) = registry := by
  cases answer with
  | error error => rfl
  | ok text => simp only [apply, found]

theorem RegistryEvent.apply_answered_unparsed {text : String} {fault : ParseError}
    (failed : Program.ofSource config (some name) text = .error fault) :
    RegistryEvent.apply config registry (.answered name (.ok text)) = registry := by
  cases found : registry.find? name with
  | some known => exact apply_answered_known found
  | none => simp only [apply, found, failed]

theorem RegistryEvent.apply_answered_unknown {text : String} {program : Program}
    (unknown : registry.find? name = none)
    (compiled : Program.ofSource config (some name) text = .ok program) :
    RegistryEvent.apply config registry (.answered name (.ok text)) =
      registry.insert name program := by
  simp only [apply, unknown, compiled]

theorem RegistryEvent.apply_ascend (ascend : registry.Ascend) :
    (event.apply config registry).Ascend := by
  unfold RegistryEvent.apply
  split
  · exact ascend.insert
  · exact ascend.erase
  · exact ascend
  · split
    · exact ascend.insert
    · exact ascend

theorem replay_ascend (config : Config) (history : List RegistryEvent) :
    (replay config [] history).Ascend := by
  induction history using List.reverseRecOn with
  | nil => exact List.Pairwise.nil
  | append_singleton history event inductionHypothesis =>
      rw [replay_append_singleton]
      exact RegistryEvent.apply_ascend inductionHypothesis

theorem lifetime_append_singleton :
    lifetime name (history ++ [event]) =
      if event.removes name then [] else event :: lifetime name history := by
  unfold lifetime
  rw [List.reverse_concat, List.takeWhile_cons]
  cases event.removes name <;> rfl

theorem owner?_of_removes (removes : event.removes name = true) :
    owner? config name (history ++ [event]) = none := by
  rw [owner?, lifetime_append_singleton, if_pos removes]
  rfl

/-- The latest event counts first where it registers, and last where it answers. -/
theorem owner?_of_not_removes (stays : event.removes name = false) :
    owner? config name (history ++ [event]) =
      ((event.registers? name).or (owner? config name history)).or
        (event.answers? config name) := by
  rw [owner?, lifetime_append_singleton, stays, owner?]
  simp only [Bool.false_eq_true, if_false, List.reverse_cons, List.findSome?_append,
    List.findSome?_cons, List.findSome?_nil]
  cases event.registers? name <;> cases event.answers? config name <;> simp

/-- What an event makes of a registry is found under a name where the event concerns the name. -/
theorem RegistryEvent.find?_apply_of_not_removes (stays : event.removes name = false) :
    (event.apply config registry).find? name =
      ((event.registers? name).or (registry.find? name)).or (event.answers? config name) := by
  cases event with
  | registered other program =>
      by_cases same : other = name
      · subst same
        simp [apply, registers?, Members.find?_insert_self]
      · simp [apply, registers?, answers?, same, Members.find?_insert_of_ne _ _ same]
  | removed other =>
      have different : other ≠ name := by simpa [removes] using stays
      simp [apply, registers?, answers?, Members.find?_erase_of_ne different]
  | answered other answer =>
      cases answer with
      | error error => simp [apply, registers?, answers?]
      | ok text =>
          simp only [registers?, Option.none_or, answers?]
          rw [apply]
          by_cases same : other = name
          · subst same
            rw [if_pos rfl]
            cases found : registry.find? other <;>
              cases compiled : Program.ofSource config (some other) text <;>
                simp [found, Members.find?_insert_self, Except.toOption]
          · rw [if_neg same, Option.or_none]
            split
            · exact Members.find?_insert_of_ne _ _ same
            · rfl

theorem RegistryEvent.find?_apply_of_removes (ascend : registry.Ascend)
    (gone : event.removes name = true) : (event.apply config registry).find? name = none := by
  cases event with
  | removed other =>
      obtain rfl : other = name := by simpa [removes] using gone
      exact ascend.find?_erase_self
  | registered _ _ | answered _ _ => cases gone

/-- What is registered is what the history says, from a registry on that has nothing under the name.
-/
theorem find?_replay_of_unknown (unknown : registry.find? name = none)
    (stays : ∀ event ∈ history, event.removes name = false) :
    (replay config registry history).find? name = owner? config name history := by
  induction history using List.reverseRecOn with
  | nil => exact unknown
  | append_singleton history event inductionHypothesis =>
      obtain ⟨staysBefore, staysLast⟩ := List.forall_mem_append.mp stays
      have last := staysLast event (List.mem_singleton_self _)
      rw [replay_append_singleton, RegistryEvent.find?_apply_of_not_removes last,
        inductionHypothesis staysBefore, owner?_of_not_removes last]

/-- What is registered is what the history says. -/
theorem find?_replay (config : Config) (name : String) (history : List RegistryEvent) :
    (replay config [] history).find? name = owner? config name history := by
  induction history using List.reverseRecOn with
  | nil => rfl
  | append_singleton history event inductionHypothesis =>
      rw [replay_append_singleton]
      cases removes : event.removes name with
      | true =>
          rw [owner?_of_removes removes,
            RegistryEvent.find?_apply_of_removes (replay_ascend config history) removes]
      | false =>
          rw [owner?_of_not_removes removes, RegistryEvent.find?_apply_of_not_removes removes,
            inductionHypothesis]

end Replay

end BraceTemplate
