import Mathlib.Data.List.Basic
import Mathlib.Data.List.Count
import Mathlib.Data.List.TakeWhile

/-! A queue that is served in batches from the front. Of a batch some items leave and the others stay
in their place; items can be held back from a batch. An item gets its turn when fewer items than a
batch holds stay before it, and need not get one otherwise.
-/

namespace RomaBridge.Foundation

variable {α : Type} [DecidableEq α]

def batchOf (batch : ℕ) (held : α → Bool) (queue : List α) : List α :=
  (queue.filter (fun item => !held item)).take batch

def serveBatch (batch : ℕ) (leaves held : α → Bool) (queue : List α) : List α :=
  queue.filter (fun item => !(leaves item && (batchOf batch held queue).contains item))

def serveBatches (batch : ℕ) (leaves : α → Bool) : List (α → Bool) → List α → List α
  | [], queue => queue
  | held :: rest, queue => serveBatches batch leaves rest (serveBatch batch leaves held queue)

def staysBefore (leaves : α → Bool) (item : α) (queue : List α) : ℕ :=
  (queue.takeWhile (fun other => other ≠ item)).countP (fun other => !leaves other)

variable {batch : ℕ} {leaves held : α → Bool} {queue : List α} {item : α}

-- One batch

/-- What is before a kept item of a filtered list is the filtered part before it, by induction on the
list.
-/
theorem takeWhile_filter_ne {kept : α → Bool} (keeps : kept item = true) (list : List α)
    : (list.filter kept).takeWhile (fun other => other ≠ item)
      = (list.takeWhile (fun other => other ≠ item)).filter kept := by
  induction list with
  | nil => rfl
  | cons head rest ih =>
      by_cases same : head = item
      · subst same
        simp [keeps]
      · cases keepsHead : kept head with
        | true => simpa [keepsHead, same] using ih
        | false => simpa [keepsHead, same] using ih

theorem not_mem_takeWhile_ne (list : List α) : item ∉ list.takeWhile (fun other => other ≠ item) := by
  intro member
  have differs := List.mem_takeWhile_imp member
  simp at differs

theorem split_at_item (member : item ∈ queue)
    : ∃ rest, queue = queue.takeWhile (fun other => other ≠ item) ++ item :: rest := by
  induction queue with
  | nil => cases member
  | cons head rest ih =>
      by_cases same : head = item
      · subst same
        exact ⟨rest, by simp⟩
      · obtain ⟨later, split⟩ := ih ((List.mem_cons.mp member).resolve_left (Ne.symm same))
        refine ⟨later, ?_⟩
        rw [List.takeWhile_cons_of_pos (by simpa using same), List.cons_append, ← split]

theorem serveBatch_sublist : (serveBatch batch leaves held queue).Sublist queue :=
  List.filter_sublist

theorem staysBefore_serveBatch (member : item ∈ serveBatch batch leaves held queue)
    : staysBefore leaves item (serveBatch batch leaves held queue)
      = staysBefore leaves item queue := by
  have keeps := (List.mem_filter.mp member).2
  have before := @takeWhile_filter_ne _ _ item
    (fun other => !(leaves other && (batchOf batch held queue).contains other)) keeps queue
  unfold staysBefore serveBatch
  rw [before, List.countP_filter]
  refine List.countP_congr ?_
  intro other _
  cases stays : leaves other with
  | false => simp
  | true => simp

theorem exists_leaving (member : item ∈ queue) (goes : leaves item = true)
    (free : held item = false) (few : staysBefore leaves item queue < batch)
    : ∃ other ∈ batchOf batch held queue, leaves other = true := by
  obtain ⟨rest, split⟩ := split_at_item member
  generalize before : queue.takeWhile (fun other => other ≠ item) = front at split
  have filtered : queue.filter (fun other => !held other)
      = front.filter (fun other => !held other)
        ++ item :: rest.filter (fun other => !held other) := by
    rw [split, List.filter_append, List.filter_cons_of_pos (by simp [free])]
  unfold batchOf
  rw [filtered]
  by_cases short : (front.filter (fun other => !held other)).length < batch
  · refine ⟨item, ?_, goes⟩
    rw [List.take_append]
    refine List.mem_append_right _ ?_
    obtain ⟨room, more⟩ : ∃ room, batch - (front.filter (fun other => !held other)).length
        = room + 1 := ⟨batch - (front.filter (fun other => !held other)).length - 1, by omega⟩
    rw [more, List.take_succ_cons]
    exact List.mem_cons_self
  · by_contra none_
    have full : ((front.filter (fun other => !held other)).take batch).length = batch := by
      rw [List.length_take]
      omega
    rw [List.take_append_of_le_length (by omega)] at none_
    have allStay : ∀ other ∈ (front.filter (fun other => !held other)).take batch,
        (!leaves other) = true := by
      intro other listed
      cases stays : leaves other with
      | false => rfl
      | true => exact absurd ⟨other, listed, stays⟩ none_
    have counted : ((front.filter (fun other => !held other)).take batch).countP
        (fun other => !leaves other) = batch := by
      rw [List.countP_eq_length.mpr allStay, full]
    have bounded : ((front.filter (fun other => !held other)).take batch).countP
        (fun other => !leaves other) ≤ front.countP (fun other => !leaves other) :=
      ((List.take_sublist _ _).trans List.filter_sublist).countP_le
    rw [staysBefore, before] at few
    omega

theorem countP_serveBatch_lt {other : α} (listed : other ∈ batchOf batch held queue)
    (goes : leaves other = true)
    : (serveBatch batch leaves held queue).countP leaves < queue.countP leaves := by
  have stored : other ∈ queue := (List.mem_filter.mp (List.mem_of_mem_take listed)).1
  have sub : ((serveBatch batch leaves held queue).filter leaves).Sublist (queue.filter leaves) :=
    serveBatch_sublist.filter leaves
  rw [List.countP_eq_length_filter, List.countP_eq_length_filter]
  refine lt_of_le_of_ne sub.length_le ?_
  intro same
  have equal := sub.eq_of_length same
  have there : other ∈ (serveBatch batch leaves held queue).filter leaves :=
    equal ▸ List.mem_filter.mpr ⟨stored, goes⟩
  have kept := (List.mem_filter.mp (List.mem_filter.mp there).1).2
  simp [goes, listed] at kept

-- All batches

/-- The items after some batches were in the queue, by induction on the batches. -/
theorem serveBatches_sublist (helds : List (α → Bool)) (queue : List α)
    : (serveBatches batch leaves helds queue).Sublist queue := by
  induction helds generalizing queue with
  | nil => exact .refl queue
  | cons held rest ih => exact (ih _).trans serveBatch_sublist

theorem not_mem_serveBatches (helds : List (α → Bool)) {queue : List α}
    (free : ∀ held ∈ helds, ∀ other, leaves other = true → held other = false)
    (goes : leaves item = true) (few : staysBefore leaves item queue < batch)
    (enough : queue.countP leaves ≤ helds.length)
    : item ∉ serveBatches batch leaves helds queue := by
  induction helds generalizing queue with
  | nil =>
      intro member
      have positive := List.countP_pos_iff.mpr ⟨item, member, goes⟩
      rw [List.length_nil] at enough
      exact absurd positive (by rw [serveBatches]; omega)
  | cons held rest ih =>
      intro later
      have member : item ∈ serveBatch batch leaves held queue :=
        (serveBatches_sublist rest _).subset later
      have stored : item ∈ queue := serveBatch_sublist.subset member
      obtain ⟨other, listed, otherGoes⟩ :=
        exists_leaving stored goes (free held (by simp) item goes) few
      have fewer := countP_serveBatch_lt listed otherGoes
      rw [List.length_cons] at enough
      exact ih (fun held' listed' => free held' (by simp [listed']))
        (by rw [staysBefore_serveBatch member]; exact few) (by omega) later

theorem mem_serveBatches (helds : List (α → Bool)) {queue : List α}
    (free : ∀ held ∈ helds, ∀ other ∈ queue, held other = false) (member : item ∈ queue)
    (many : batch ≤ staysBefore leaves item queue)
    : item ∈ serveBatches batch leaves helds queue := by
  induction helds generalizing queue with
  | nil => exact member
  | cons held rest ih =>
      have all : queue.filter (fun other => !held other) = queue :=
        List.filter_eq_self.mpr (fun other stored => by simp [free held (by simp) other stored])
      have unserved : item ∉ batchOf batch held queue := by
        intro served
        unfold batchOf at served
        obtain ⟨later, split⟩ := split_at_item member
        have long : batch ≤ (queue.takeWhile (fun other => other ≠ item)).length :=
          many.trans List.countP_le_length
        rw [all, split, List.take_append_of_le_length long] at served
        exact not_mem_takeWhile_ne queue (List.mem_of_mem_take served)
      have still : item ∈ serveBatch batch leaves held queue :=
        List.mem_filter.mpr ⟨member, by simp [unserved]⟩
      refine ih ?_ still (by rw [staysBefore_serveBatch still]; exact many)
      intro held' listed other stored
      exact free held' (by simp [listed]) other (serveBatch_sublist.subset stored)

end RomaBridge.Foundation
