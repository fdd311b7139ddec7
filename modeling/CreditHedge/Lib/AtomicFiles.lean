import Mathlib.Logic.Basic

/-!
# Files that are replaced as a whole

A store that keeps its state in one file. A method reads the file, and then raises, or answers, or
answers once it has written the file anew: to a temporary file first, which then takes the file's
place. A crash may come at any point of this. It leaves something in the temporary file, which no
method ever reads, or it comes after the replacement and only costs the answer (`Fate`).

The store implements an abstract one if every single method does what the abstract one's does
(`Implements`). Then it does so over every history of calls and crashes (`Implements.history`): its
answers are those of the abstract store, which the calls that were cut short have never reached.
-/

set_option autoImplicit false

namespace AtomicFile

variable {T ε σ Call : Type*} {Answer : Call → Type*}

structure Disk (T : Type*) where
  file : Option T := none
  temporary : Option T := none

/-- What becomes of a call. -/
inductive Fate (T : Type*) where
  | answered
  /-- A crash before the file was replaced, and what it leaves in the temporary file. -/
  | interrupted (left : Option T)
  /-- A crash once the file was replaced. -/
  | unanswered

/-- A method, given the file: it raises, or it answers, with what it writes if it writes. -/
abbrev Method (T ε : Type*) {Call : Type*} (Answer : Call → Type*) :=
  (call : Call) → Option T → Except ε (Answer call × Option T)

/-- What has been answered to a call, if anything. -/
abbrev Reply (ε : Type*) {Call : Type*} (Answer : Call → Type*) :=
  Σ call : Call, Option (Except ε (Answer call))

/-! ## The store -/

/-- The disk after a call that was not cut short. -/
def written {α : Type*} (disk : Disk T) : Except ε (α × Option T) → Disk T
  | .ok (_, some text) => { file := some text, temporary := none }
  | _ => disk

/-- The disk after a call that was cut short. -/
def torn {α : Type*} (disk : Disk T) (left : Option T) : Except ε (α × Option T) → Disk T
  | .ok (_, some _) => { disk with temporary := left }
  | _ => disk

/-- One call of a method, and its fate. -/
def perform (method : Method T ε Answer) (disk : Disk T) (call : Call) :
    Fate T → Option (Except ε (Answer call)) × Disk T
  | .answered => (some ((method call disk.file).map Prod.fst), written disk (method call disk.file))
  | .interrupted left => (none, torn disk left (method call disk.file))
  | .unanswered => (none, written disk (method call disk.file))

/-- A history of calls, one after the other. -/
def history (method : Method T ε Answer) :
    Disk T → List (Call × Fate T) → List (Reply ε Answer) × Disk T
  | disk, [] => ([], disk)
  | disk, (call, fate) :: calls =>
    let (reply, disk) := perform method disk call fate
    let (replies, disk) := history method disk calls
    (⟨call, reply⟩ :: replies, disk)

/-! ## The abstract store -/

/-- What an abstract store does on a call. -/
abbrev Spec (σ ε : Type*) {Call : Type*} (Answer : Call → Type*) :=
  (call : Call) → σ → Except ε (Answer call) × σ

/-- A call that was cut short has not been made. -/
def Spec.perform (spec : Spec σ ε Answer) (state : σ) (call : Call) :
    Fate T → Option (Except ε (Answer call)) × σ
  | .answered => (some (spec call state).1, (spec call state).2)
  | .interrupted _ => (none, state)
  | .unanswered => (none, (spec call state).2)

def Spec.history (spec : Spec σ ε Answer) :
    σ → List (Call × Fate T) → List (Reply ε Answer) × σ
  | state, [] => ([], state)
  | state, (call, fate) :: calls =>
    let (reply, state) := spec.perform state call fate
    let (replies, state) := spec.history state calls
    (⟨call, reply⟩ :: replies, state)

/-! ### What is learned from the answers

An answer may tell a fact about the state. If no call makes a fact false that was true, all later
answers have to be in accordance with it. -/

section Learning

variable {Fact : Type*} {spec : Spec σ ε Answer} {Holds : Fact → σ → Prop}
  {Respected : Fact → Reply ε Answer → Prop}

theorem Spec.respected_of_holds
    (hkeep : ∀ fact call state, Holds fact state → Holds fact (spec call state).2)
    (hanswer : ∀ fact call state, Holds fact state →
      Respected fact ⟨call, some (spec call state).1⟩)
    (hsilent : ∀ fact call, Respected fact ⟨call, none⟩) {fact : Fact} {state : σ}
    (h : Holds fact state) (calls : List (Call × Fate T)) :
    ∀ reply ∈ (spec.history state calls).1, Respected fact reply := by
  induction calls generalizing state with
  | nil => exact fun reply hreply => absurd hreply List.not_mem_nil
  | cons request calls ih =>
    obtain ⟨call, fate⟩ := request
    intro reply hreply
    cases fate with
    | answered =>
      rcases List.mem_cons.mp hreply with rfl | hmem
      · exact hanswer fact call state h
      · exact ih (hkeep fact call state h) reply hmem
    | interrupted left =>
      rcases List.mem_cons.mp hreply with rfl | hmem
      · exact hsilent fact call
      · exact ih h reply hmem
    | unanswered =>
      rcases List.mem_cons.mp hreply with rfl | hmem
      · exact hsilent fact call
      · exact ih (hkeep fact call state h) reply hmem

/-- **What one answer has told, all later answers respect.** -/
theorem Spec.pairwise_respected {learned : Reply ε Answer → Option Fact}
    (hkeep : ∀ fact call state, Holds fact state → Holds fact (spec call state).2)
    (hanswer : ∀ fact call state, Holds fact state →
      Respected fact ⟨call, some (spec call state).1⟩)
    (hlearned : ∀ call state, ∀ fact ∈ learned ⟨call, some (spec call state).1⟩,
      Holds fact (spec call state).2)
    (hsilent : ∀ fact call, Respected fact ⟨call, none⟩)
    (hnothing : ∀ call, learned ⟨call, none⟩ = none) (state : σ) (calls : List (Call × Fate T)) :
    (spec.history state calls).1.Pairwise fun reply later =>
      ∀ fact ∈ learned reply, Respected fact later := by
  induction calls generalizing state with
  | nil => exact List.Pairwise.nil
  | cons request calls ih =>
    obtain ⟨call, fate⟩ := request
    cases fate with
    | answered =>
      refine List.Pairwise.cons (fun later hlater fact hfact => ?_) (ih _)
      exact respected_of_holds hkeep hanswer hsilent (hlearned call state fact hfact) calls later
        hlater
    | interrupted left =>
      refine List.Pairwise.cons (fun later hlater fact hfact => ?_) (ih _)
      rw [hnothing] at hfact
      cases hfact
    | unanswered =>
      refine List.Pairwise.cons (fun later hlater fact hfact => ?_) (ih _)
      rw [hnothing] at hfact
      cases hfact

end Learning

/-! ## Refinement -/

/-- Every method answers what the abstract store answers, and does to the file what that one does
    to its state. -/
def Implements (method : Method T ε Answer) (spec : Spec σ ε Answer)
    (R : Option T → σ → Prop) : Prop :=
  ∀ call disk state, R disk.file state →
    (method call disk.file).map Prod.fst = (spec call state).1 ∧
      R (written disk (method call disk.file)).file (spec call state).2

theorem file_torn {α : Type*} (disk : Disk T) (left : Option T)
    (outcome : Except ε (α × Option T)) : (torn disk left outcome).file = disk.file := by
  unfold torn
  split
  · rfl
  · rfl

/-- One call, whatever becomes of it. -/
theorem Implements.perform {method : Method T ε Answer} {spec : Spec σ ε Answer}
    {R : Option T → σ → Prop} (h : Implements method spec R) {disk : Disk T} {state : σ}
    (hR : R disk.file state) (call : Call) (fate : Fate T) :
    (AtomicFile.perform method disk call fate).1 = (spec.perform state call fate).1 ∧
      R (AtomicFile.perform method disk call fate).2.file (spec.perform state call fate).2 := by
  obtain ⟨hanswer, heffect⟩ := h call disk state hR
  cases fate with
  | answered => exact ⟨congrArg some hanswer, heffect⟩
  | interrupted left =>
    refine ⟨rfl, ?_⟩
    show R (torn disk left (method call disk.file)).file state
    rw [file_torn]
    exact hR
  | unanswered => exact ⟨rfl, heffect⟩

/-- **Whatever is called, and whatever is cut short, the store answers what the abstract store
    answers.** -/
theorem Implements.history {method : Method T ε Answer} {spec : Spec σ ε Answer}
    {R : Option T → σ → Prop} (h : Implements method spec R) {disk : Disk T} {state : σ}
    (hR : R disk.file state) (calls : List (Call × Fate T)) :
    (AtomicFile.history method disk calls).1 = (spec.history state calls).1 ∧
      R (AtomicFile.history method disk calls).2.file (spec.history state calls).2 := by
  induction calls generalizing disk state with
  | nil => exact ⟨rfl, hR⟩
  | cons request calls ih =>
    obtain ⟨call, fate⟩ := request
    obtain ⟨hreply, hafter⟩ := h.perform hR call fate
    obtain ⟨hreplies, hend⟩ := ih hafter
    exact ⟨congrArg₂ (fun reply replies => (⟨call, reply⟩ : Reply ε Answer) :: replies) hreply
      hreplies, hend⟩

end AtomicFile
