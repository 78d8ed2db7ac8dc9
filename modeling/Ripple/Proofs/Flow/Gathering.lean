import Ripple.Flow.Commands
import Mathlib.Data.List.Basic
import Mathlib.Logic.Relation

/-!
# Extracting flows side by side

Each command diagram that has a flow may have it extracted by a task of its own. The tasks share
nothing that changes, and end in any order; the diagrams are put together once all have ended.
Whatever the order, no task waits for another, and what is put together is the same as without
tasks.
-/

namespace Ripple

open Relation

/-- A task that extracts a flow: it is running, and knows the full name of the message, or it has
ended with a result. -/
inductive Task where
  | running (message : String)
  | ended (result : Option Extraction)

/-- A command diagram whose flow, if it has one, is left to a task. -/
structure Pending where
  name : String
  definedIn : List String
  task : Option Task

namespace Pending

variable (c : Codebase) (p : Profile)

/-- The diagram, unless its task is still running. -/
def diagram? (d : Pending) : Option CommandDiagram :=
  match d.task with
  | none => some ⟨d.name, d.definedIn, none⟩
  | some (.ended result) => some ⟨d.name, d.definedIn, result⟩
  | some (.running _) => none

/-- The diagram that is to come. -/
def settled (d : Pending) : CommandDiagram where
  name := d.name
  definedIn := d.definedIn
  extraction :=
    match d.task with
    | none => none
    | some (.ended result) => result
    | some (.running message) => c.extract p message

/-- The same diagram, its task ended. -/
def settle (d : Pending) : Pending :=
  { d with task := d.task.map fun _ => .ended (d.settled c p).extraction }

def isRunning (d : Pending) : Bool := d.diagram?.isNone

end Pending

namespace Codebase

variable (c : Codebase) (p : Profile)

/-- Starts a task for each group that has a command with a handler. -/
def launch : List Pending :=
  (c.commandGroups p).map fun (name, group) =>
    { name
      definedIn := c.definedIn p group
      task := (c.firstHandled p group).map fun r => .running (c.fullName r) }

/-- One of the running tasks ends. -/
inductive Ends : List Pending → List Pending → Prop
  | one (before after : List Pending) (d : Pending) : d.isRunning = true →
      Ends (before ++ d :: after) (before ++ d.settle c p :: after)

/-- Puts the diagrams together, unless a task is still running. -/
def gather : List Pending → Option (List CommandDiagram)
  | [] => some []
  | d :: rest => d.diagram?.bind fun first => (gather rest).map (first :: ·)

end Codebase

variable {c : Codebase} {p : Profile} {pending later : List Pending}

/-! ## One task ends -/

theorem Pending.settled_settle (d : Pending) : (d.settle c p).settled c p = d.settled c p := by
  obtain ⟨name, definedIn, task⟩ := d
  cases task with
  | none => rfl
  | some task => cases task <;> rfl

theorem Pending.isRunning_settle (d : Pending) : (d.settle c p).isRunning = false := by
  obtain ⟨name, definedIn, task⟩ := d
  cases task <;> rfl

theorem Pending.diagram?_of_not_isRunning {d : Pending} (h : d.isRunning = false) :
    d.diagram? = some (d.settled c p) := by
  obtain ⟨name, definedIn, task⟩ := d
  cases task with
  | none => rfl
  | some task =>
    cases task with
    | running message => cases h
    | ended result => rfl

namespace Codebase

theorem Ends.map_settled (h : c.Ends p pending later) :
    later.map (Pending.settled c p) = pending.map (Pending.settled c p) := by
  obtain ⟨before, after, d, -⟩ := h
  simp only [List.map_append, List.map_cons, Pending.settled_settle]

/-- A task that ends leaves one less running. -/
theorem Ends.countP_isRunning (h : c.Ends p pending later) :
    later.countP Pending.isRunning + 1 = pending.countP Pending.isRunning := by
  obtain ⟨before, after, d, hd⟩ := h
  simp only [List.countP_append, List.countP_cons, Pending.isRunning_settle, hd]
  simp
  omega

/-- Diagrams can be put together once no task is running, and are then those that were to
come. -/
theorem gather_eq_some_iff {diagrams : List CommandDiagram} :
    gather pending = some diagrams ↔
      (∀ d ∈ pending, d.isRunning = false) ∧ diagrams = pending.map (Pending.settled c p) := by
  induction pending generalizing diagrams with
  | nil => simp [gather]
  | cons d rest ih =>
    cases hd : d.isRunning with
    | true =>
      have hnone : d.diagram? = none := Option.isNone_iff_eq_none.1 hd
      rw [gather, hnone]
      refine iff_of_false nofun fun h => ?_
      have hended := h.1 d List.mem_cons_self
      rw [hd] at hended
      cases hended
    | false =>
      rw [gather, Pending.diagram?_of_not_isRunning (c := c) (p := p) hd, Option.bind_some,
        Option.map_eq_some_iff, List.forall_mem_cons, and_iff_right hd]
      constructor
      · rintro ⟨others, hothers, rfl⟩
        obtain ⟨hrest, rfl⟩ := ih.1 hothers
        exact ⟨hrest, rfl⟩
      · rintro ⟨hended, rfl⟩
        exact ⟨_, ih.2 ⟨hended, rfl⟩, rfl⟩

/-- As long as a task is running, one can end. -/
theorem exists_ends (h : gather pending = none) : ∃ later, c.Ends p pending later := by
  have hrunning : ∃ d ∈ pending, d.isRunning = true := by
    by_contra hnone
    have hended : ∀ d ∈ pending, d.isRunning = false := fun d hd =>
      Bool.eq_false_iff.2 fun hrunning => hnone ⟨d, hd, hrunning⟩
    have hgather := (gather_eq_some_iff (c := c) (p := p)).2 ⟨hended, rfl⟩
    rw [h] at hgather
    cases hgather
  obtain ⟨d, hd, hrunning⟩ := hrunning
  obtain ⟨before, after, rfl⟩ := List.append_of_mem hd
  exact ⟨_, .one before after d hrunning⟩

/-! ## All tasks end -/

theorem map_settled_of_ends (h : ReflTransGen (c.Ends p) pending later) :
    later.map (Pending.settled c p) = pending.map (Pending.settled c p) := by
  induction h with
  | refl => rfl
  | tail _ hends ih => rw [hends.map_settled, ih]

theorem map_settled_launch : (c.launch p).map (Pending.settled c p) = c.extractCommands p := by
  rw [launch, List.map_map, extractCommands]
  refine List.map_congr_left fun ⟨name, group⟩ _ => ?_
  simp only [Function.comp_apply, Pending.settled, commandDiagram]
  cases c.firstHandled p group <;> rfl

/-- The tasks can always go on until all have ended. -/
theorem exists_gather (pending : List Pending) :
    ∃ later, ReflTransGen (c.Ends p) pending later ∧ (gather later).isSome = true := by
  -- on the number of tasks that are running
  induction hn : pending.countP Pending.isRunning using Nat.strongRecOn
    generalizing pending with
  | ind n ih =>
    cases hgather : gather pending with
    | some diagrams => exact ⟨pending, .refl, by rw [hgather]; rfl⟩
    | none =>
      obtain ⟨next, hends⟩ := exists_ends (c := c) (p := p) hgather
      have hfewer := hends.countP_isRunning
      obtain ⟨later, hlater, hsome⟩ := ih _ (by omega) next rfl
      exact ⟨later, .head hends hlater, hsome⟩

/-- Whatever tasks have ended so far, all can end, and whenever the diagrams can be put together
they are those drawn without tasks. -/
theorem gather_of_launch (h : ReflTransGen (c.Ends p) (c.launch p) pending) :
    (∀ diagrams, gather pending = some diagrams → diagrams = c.extractCommands p) ∧
      ∃ later, ReflTransGen (c.Ends p) pending later ∧
        gather later = some (c.extractCommands p) := by
  have hsettled {pending : List Pending} (h : ReflTransGen (c.Ends p) (c.launch p) pending)
      (diagrams : List CommandDiagram) (hgather : gather pending = some diagrams) :
      diagrams = c.extractCommands p := by
    rw [(gather_eq_some_iff.1 hgather).2, map_settled_of_ends h, map_settled_launch]
  refine ⟨hsettled h, ?_⟩
  obtain ⟨later, hlater, hsome⟩ := exists_gather (c := c) (p := p) pending
  obtain ⟨diagrams, hgather⟩ := Option.isSome_iff_exists.1 hsome
  exact ⟨later, hlater, by rw [hgather, hsettled (h.trans hlater) diagrams hgather]⟩

end Codebase

end Ripple
