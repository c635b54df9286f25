import Mathlib.Data.List.Perm.Subperm
import Mathlib.Data.Int.Order.Basic
import Mathlib.Data.List.Nodup
import Mathlib.Data.List.Range

/-! Reading an ordered list in pages that resume behind the key of the last row.
A page is cut after a fixed number of rows, so rows that share the key of a page's last row and
did not fit are never read: the pages are complete exactly when no cut falls inside such a group.
-/

namespace RomaBridge.Foundation

variable {α : Type}

/-- How a paged reading can fail: it did not end within its fuel, or a page could not be asked
for.
-/
inductive PagingError where
  | fuel
  | range
  deriving DecidableEq, Repr

section Pages

variable (key : α → ℤ) (low top : ℤ) (limit : ℕ)

def fromKey (rows : List α) (start : ℤ) : List α := rows.filter (fun row => start ≤ key row)

/-- The pages from a key on, joined. A page outside `low` and `top` cannot be asked for. -/
def pages (rows : List α) : ℕ → ℤ → Except PagingError (List α)
  | 0, _ => .error .fuel
  | fuel + 1, start =>
      if start < low ∨ top < start then .error .range
      else
        match ((fromKey key rows start).take limit).getLast? with
        | none => .ok []
        | some last =>
            (pages rows fuel (key last + 1)).map (((fromKey key rows start).take limit) ++ ·)

def CleanCuts (rows : List α) : Prop :=
  ∀ (count : ℕ) (left right : α), rows[(count + 1) * limit - 1]? = some left
    → rows[(count + 1) * limit]? = some right → key left ≠ key right

end Pages

section Completeness

variable {key : α → ℤ} {low top : ℤ} {limit : ℕ}

theorem fromKey_resume {rows : List α} {start : ℤ} {last : α}
    (ordered : rows.Pairwise (fun left right => key left ≤ key right))
    (found : ((fromKey key rows start).take limit).getLast? = some last)
    : fromKey key rows (key last + 1)
      = ((fromKey key rows start).drop limit).filter (fun row => key last + 1 ≤ key row) := by
  have member : last ∈ fromKey key rows start :=
    List.mem_of_mem_take (List.mem_of_getLast? found)
  have above : start ≤ key last := by
    simpa [fromKey] using (List.mem_filter.mp member).2
  have again : fromKey key rows (key last + 1)
      = (fromKey key rows start).filter (fun row => key last + 1 ≤ key row) := by
    unfold fromKey
    rw [List.filter_filter]
    apply List.filter_congr
    intro row _
    simp only [← Bool.decide_and, decide_eq_decide]
    omega
  have page : ((fromKey key rows start).take limit).filter (fun row => key last + 1 ≤ key row)
      = [] := by
    rw [List.filter_eq_nil_iff]
    intro row inPage
    obtain ⟨front, split⟩ := List.getLast?_eq_some_iff.mp found
    have sorted : ((fromKey key rows start).take limit).Pairwise
        (fun left right => key left ≤ key right) :=
      (ordered.sublist List.filter_sublist).sublist (List.take_sublist _ _)
    rw [split] at inPage sorted
    have below : key row ≤ key last := by
      rcases List.mem_append.mp inPage with earlier | here
      · exact (List.pairwise_append.mp sorted).2.2 row earlier last (by simp)
      · rw [List.mem_singleton.mp here]
    simp only [decide_eq_true_eq]
    omega
  rw [again]
  conv_lhs => rw [← List.take_append_drop limit (fromKey key rows start)]
  rw [List.filter_append, page, List.nil_append]

theorem getElem?_cut {rows : List α} {last : α} (found : (rows.take limit).getLast? = some last)
    (left : rows.drop limit ≠ [])
    : rows[limit - 1]? = some last := by
  have longer : limit < rows.length := by
    by_contra short
    exact left (List.drop_eq_nil_of_le (by omega))
  rw [List.getLast?_eq_getElem?, List.length_take, Nat.min_eq_left (by omega)] at found
  cases limit with
  | zero => simp at found
  | succ count =>
      rw [← found, List.getElem?_take]
      simp

theorem cleanCuts_drop (positive : 0 < limit) (rows : List α)
    : CleanCuts key limit rows
      ↔ (∀ left right, rows[limit - 1]? = some left → rows[limit]? = some right
          → key left ≠ key right)
        ∧ CleanCuts key limit (rows.drop limit) := by
  have cut : ∀ count, limit + (count + 1) * limit = (count + 1 + 1) * limit := by
    intro count
    rw [Nat.succ_mul (count + 1) limit, Nat.add_comm]
  have before : ∀ count, limit + ((count + 1) * limit - 1) = (count + 1 + 1) * limit - 1 := by
    intro count
    have more : limit ≤ (count + 1) * limit := Nat.le_mul_of_pos_left limit (Nat.succ_pos count)
    have next := cut count
    omega
  constructor
  · intro clean
    refine ⟨fun left right => by simpa using clean 0 left right, ?_⟩
    intro count left right leftAt rightAt
    rw [List.getElem?_drop] at leftAt rightAt
    exact clean (count + 1) left right (before count ▸ leftAt) (cut count ▸ rightAt)
  · intro ⟨first, later⟩ count left right leftAt rightAt
    cases count with
    | zero => exact first left right (by simpa using leftAt) (by simpa using rightAt)
    | succ count =>
        refine later count left right ?_ ?_
        · rw [List.getElem?_drop, before]
          exact leftAt
        · rw [List.getElem?_drop, cut]
          exact rightAt

/-- Nothing is skipped behind a page exactly when its cut is clean. -/
theorem filter_resume_iff {rows : List α} {last : α}
    (ordered : rows.Pairwise (fun left right => key left ≤ key right))
    (found : (rows.take limit).getLast? = some last)
    : (rows.drop limit).filter (fun row => key last + 1 ≤ key row) = rows.drop limit
      ↔ ∀ left right, rows[limit - 1]? = some left → rows[limit]? = some right
        → key left ≠ key right := by
  have behind : ∀ row ∈ rows.drop limit, key last ≤ key row := by
    intro row member
    rw [← List.take_append_drop limit rows] at ordered
    exact (List.pairwise_append.mp ordered).2.2 last (List.mem_of_getLast? found) row member
  cases remaining : rows.drop limit with
  | nil =>
      have short : rows[limit]? = none := by
        simpa using remaining
      simp [short]
  | cons next rest =>
      have cut := getElem?_cut found (by simp [remaining])
      have nextAt : rows[limit]? = some next := by
        have head : (rows.drop limit)[0]? = some next := by simp [remaining]
        simpa using head
      have sorted : (next :: rest).Pairwise (fun left right => key left ≤ key right) :=
        remaining ▸ ordered.sublist (List.drop_sublist limit rows)
      rw [List.filter_eq_self]
      constructor
      · intro kept left right before after same
        rw [cut] at before
        rw [nextAt] at after
        have above := kept next (by simp)
        simp only [decide_eq_true_eq] at above
        rw [← Option.some.inj before, ← Option.some.inj after] at same
        omega
      · intro apart row member
        have differs := apart last next cut nextAt
        have nextAbove := behind next (by simp [remaining])
        have rowAbove : key next ≤ key row := by
          rcases List.mem_cons.mp member with rfl | later
          · exact le_rfl
          · exact (List.pairwise_cons.mp sorted).1 row later
        simp only [decide_eq_true_eq]
        omega

theorem joined_eq_iff (positive : 0 < limit) {rows rest : List α} {last : α}
    (ordered : rows.Pairwise (fun left right => key left ≤ key right))
    (found : (rows.take limit).getLast? = some last)
    (part : rest.Sublist ((rows.drop limit).filter (fun row => key last + 1 ≤ key row)))
    (whole : rest = (rows.drop limit).filter (fun row => key last + 1 ≤ key row)
      ↔ CleanCuts key limit ((rows.drop limit).filter (fun row => key last + 1 ≤ key row)))
    : rows.take limit ++ rest = rows ↔ CleanCuts key limit rows := by
  have behind : rows.take limit ++ rest = rows ↔ rest = rows.drop limit := by
    constructor
    · intro joined
      refine List.append_cancel_left (joined.trans ?_)
      exact (List.take_append_drop limit rows).symm
    · intro same
      rw [same, List.take_append_drop]
  rw [behind, cleanCuts_drop positive, ← filter_resume_iff ordered found]
  constructor
  · intro same
    rw [same] at part whole
    have kept := List.filter_sublist.antisymm part
    rw [kept] at whole
    exact ⟨kept, whole.mp rfl⟩
  · intro ⟨kept, clean⟩
    rw [kept] at whole
    exact whole.mpr clean

/-- With fuel for every row the pages end: with a range error when a row has the largest key,
otherwise with some of the rows in order, and with all of them exactly when the cuts are clean.
Witness: induction on the fuel, since every page is longer than nothing.
-/
theorem pages_cases (positive : 0 < limit) {rows : List α}
    (ordered : rows.Pairwise (fun left right => key left ≤ key right))
    (bounded : ∀ row ∈ rows, low ≤ key row ∧ key row ≤ top)
    {fuel : ℕ} {start : ℤ} (above : low ≤ start) (below : start ≤ top)
    (enough : (fromKey key rows start).length < fuel)
    : ((∃ row ∈ fromKey key rows start, key row = top)
        ∧ pages key low top limit rows fuel start = .error .range)
      ∨ ((∀ row ∈ fromKey key rows start, key row ≠ top)
        ∧ ∃ result, pages key low top limit rows fuel start = .ok result
          ∧ result.Sublist (fromKey key rows start)
          ∧ (result = fromKey key rows start ↔ CleanCuts key limit (fromKey key rows start))) := by
  induction fuel generalizing start with
  | zero => exact absurd enough (Nat.not_lt_zero _)
  | succ fuel ih =>
      have asked : ¬ (start < low ∨ top < start) := by omega
      cases found : ((fromKey key rows start).take limit).getLast? with
      | none =>
          have empty : fromKey key rows start = [] := by
            rw [List.getLast?_eq_none_iff, List.take_eq_nil_iff] at found
            exact found.resolve_left (by omega)
          right
          simp [pages, asked, empty, CleanCuts]
      | some last =>
          have member : last ∈ fromKey key rows start :=
            List.mem_of_mem_take (List.mem_of_getLast? found)
          have bounds := bounded last (List.mem_of_mem_filter member)
          have resumed := fromKey_resume ordered found
          have sorted : (fromKey key rows start).Pairwise
              (fun left right => key left ≤ key right) := ordered.sublist List.filter_sublist
          have shorter : (fromKey key rows (key last + 1)).length < fuel := by
            have removed := List.length_filter_le (fun row => decide (key last + 1 ≤ key row))
              ((fromKey key rows start).drop limit)
            have nonempty := List.length_pos_of_mem member
            rw [resumed]
            simp only [List.length_drop] at removed
            omega
          by_cases largest : key last = top
          · left
            refine ⟨⟨last, member, largest⟩, ?_⟩
            obtain ⟨rest, rfl⟩ : ∃ rest, fuel = rest + 1 := ⟨fuel - 1, by omega⟩
            have refused : key last + 1 < low ∨ top < key last + 1 := by omega
            rw [pages, if_neg asked, found]
            simp only
            rw [pages, if_pos refused]
            rfl
          · have next := @ih (key last + 1) (by omega) (by omega) shorter
            rw [pages, if_neg asked, found]
            simp only
            rcases next with ⟨⟨row, rowMember, rowTop⟩, raised⟩ | ⟨noTop, rest, done, part, whole⟩
            · left
              rw [resumed] at rowMember
              refine ⟨⟨row, List.mem_of_mem_drop (List.mem_of_mem_filter rowMember), rowTop⟩, ?_⟩
              rw [raised]
              rfl
            · right
              refine ⟨?_, _, by rw [done]; rfl, ?_, ?_⟩
              · intro row rowMember rowTop
                have rowBounds := bounded last (List.mem_of_mem_filter member)
                refine noTop row (List.mem_filter.mpr ⟨List.mem_of_mem_filter rowMember, ?_⟩) rowTop
                simp only [decide_eq_true_eq]
                omega
              · have joined := (List.Sublist.refl ((fromKey key rows start).take limit)).append
                  ((resumed ▸ part).trans List.filter_sublist)
                rwa [List.take_append_drop] at joined
              · exact joined_eq_iff positive sorted found (resumed ▸ part) (resumed ▸ whole)

end Completeness
end RomaBridge.Foundation

/-! Reading an ordered result in pages of `OFFSET` and `LIMIT`. Each page is a query of its own, and rows
that the order does not separate may come in another order each time.
-/

namespace RomaBridge.Foundation

variable {α : Type} {r : α → α → Prop}

/-- Rows in an order that an `ORDER BY` admits. -/
structure Served (r : α → α → Prop) (rows : List α) where
  list : List α
  perm : list.Perm rows
  ordered : list.Pairwise r

/-- `OFFSET (page - 1) * size LIMIT size`. -/
def offsetPage (list : List α) (page size : ℕ) : List α :=
  (list.drop ((page - 1) * size)).take size

/-- The number of pages that hold some rows. -/
def pageCount (total size : ℕ) : ℕ := (total + size - 1) / size

/-- The first pages, joined; each is read from a result of its own. -/
def joinedPages {rows : List α} (served : ℕ → Served r rows) (size count : ℕ) : List α :=
  (List.range count).flatMap (fun index => offsetPage (served (index + 1)).list (index + 1) size)

/-- The order separates the last row of each page from the first one of the next. -/
def SeparatedCuts (r : α → α → Prop) (size : ℕ) (list : List α) : Prop :=
  ∀ (count : ℕ) (left right : α), list[(count + 1) * size - 1]? = some left →
    list[(count + 1) * size]? = some right → ¬ r right left

theorem le_pageCount_mul {total size : ℕ} (positive : 0 < size)
    : total ≤ pageCount total size * size := by
  have bound := Nat.lt_mul_div_succ (total + size - 1) positive
  rw [Nat.mul_add, Nat.mul_one, Nat.mul_comm size] at bound
  unfold pageCount
  omega

/-- The next page is behind the first ones. -/
theorem take_append_offsetPage (list : List α) (count size : ℕ)
    : list.take (count * size) ++ offsetPage list (count + 1) size
      = list.take ((count + 1) * size) := by
  rw [offsetPage, Nat.add_sub_cancel, Nat.add_mul, Nat.one_mul, List.take_add]

-- Separated cuts

/-- What holds below a row if it holds at the row holds of a first part of an ordered list. Induction on
the list.
-/
theorem filter_eq_take {p : α → Bool} {list : List α} (ordered : list.Pairwise r)
    (down : ∀ x y, r x y → p y = true → p x = true)
    : list.filter p = list.take (list.countP p) := by
  induction list with
  | nil => rfl
  | cons head rest ih =>
      obtain ⟨below, later⟩ := List.pairwise_cons.mp ordered
      cases holds : p head with
      | true => rw [List.filter_cons_of_pos holds, List.countP_cons_of_pos holds, List.take_succ_cons,
          ih later]
      | false =>
          have none_ : ∀ row ∈ rest, ¬ p row = true := by
            intro row member above
            rw [down head row (below row member) above] at holds
            cases holds
          have absent : ¬ p head = true := by simp [holds]
          rw [List.filter_cons_of_neg absent, List.countP_cons_of_neg absent,
            List.filter_eq_nil_iff.mpr none_, List.countP_eq_zero.mpr none_, List.take_zero]

variable {rows : List α}

theorem take_perm [DecidableRel r] [Std.Total r] [IsTrans α r] (first second : Served r rows)
    {cut : ℕ}
    (separated : ∀ left right, first.list[cut - 1]? = some left → first.list[cut]? = some right →
      ¬ r right left)
    : (first.list.take cut).Perm (second.list.take cut) := by
  have same : first.list.Perm second.list := first.perm.trans second.perm.symm
  by_cases short : first.list.length ≤ cut
  · rwa [List.take_of_length_le short, List.take_of_length_le (same.length_eq ▸ short)]
  rw [not_le] at short
  cases cut with
  | zero => exact List.Perm.refl _
  | succ index =>
      have inside : index < first.list.length := by omega
      let last := first.list[index]
      let p : α → Bool := fun row => r row last
      have down : ∀ x y, r x y → p y = true → p x = true := by
        intro x y below holds
        exact decide_eq_true (IsTrans.trans x y last below (of_decide_eq_true holds))
      have order := List.pairwise_iff_getElem.mp first.ordered
      -- the rows up to the cut are those below its last one
      have before : ∀ row ∈ first.list.take (index + 1), p row = true := by
        intro row member
        obtain ⟨place, bound, rfl⟩ := List.mem_take_iff_getElem.mp member
        refine decide_eq_true ?_
        rcases Nat.lt_or_ge place index with earlier | later
        · exact order place index _ inside earlier
        · obtain rfl : place = index := by omega
          exact (Std.Total.total _ _).elim id id
      have after : ∀ row ∈ first.list.drop (index + 1), ¬ p row = true := by
        intro row member holds
        obtain ⟨place, bound, rfl⟩ := List.mem_drop_iff_getElem.mp member
        refine separated last first.list[index + 1] (List.getElem?_eq_getElem inside)
          (List.getElem?_eq_getElem short) ?_
        have below : r first.list[index + 1] first.list[index + 1 + place] := by
          rcases Nat.eq_zero_or_pos place with rfl | behind
          · exact (Std.Total.total _ _).elim id id
          · exact order _ _ _ _ (by omega)
        exact IsTrans.trans _ _ _ below (of_decide_eq_true holds)
      have count : first.list.countP p = index + 1 := by
        rw [← List.take_append_drop (index + 1) first.list, List.countP_append,
          List.countP_eq_length.mpr before, List.countP_eq_zero.mpr after, List.length_take]
        omega
      have count' : second.list.countP p = index + 1 := by rw [← same.countP_eq p, count]
      have taken := filter_eq_take first.ordered down
      have taken' := filter_eq_take second.ordered down
      rw [count] at taken
      rw [count'] at taken'
      rw [← taken, ← taken']
      exact same.filter p

theorem joinedPages_perm [DecidableRel r] [Std.Total r] [IsTrans α r] (first : Served r rows)
    {size : ℕ} (separated : SeparatedCuts r size first.list) (served : ℕ → Served r rows)
    (count : ℕ)
    : (joinedPages served size count).Perm (first.list.take (count * size)) := by
  have same : ∀ count (other : Served r rows),
      (first.list.take (count * size)).Perm (other.list.take (count * size)) := by
    intro count other
    cases count with
    | zero => simp
    | succ count => exact take_perm first other (separated count)
  induction count with
  | zero => simp [joinedPages]
  | succ count ih =>
      rw [joinedPages, List.range_succ, List.flatMap_append, List.flatMap_singleton]
      calc joinedPages served size count ++ offsetPage (served (count + 1)).list (count + 1) size
          |>.Perm (first.list.take (count * size)
            ++ offsetPage (served (count + 1)).list (count + 1) size) := ih.append_right _
        _ |>.Perm ((served (count + 1)).list.take (count * size)
            ++ offsetPage (served (count + 1)).list (count + 1) size) :=
            (same count _).append_right _
        _ = (served (count + 1)).list.take ((count + 1) * size) := take_append_offsetPage ..
        _ |>.Perm (first.list.take ((count + 1) * size)) := (same (count + 1) _).symm

-- Other cuts

/-- Two neighbours that the order does not separate may change places. -/
theorem Served.exists_swap (served : Served r rows) {front back : List α} {left right : α}
    (split : served.list = front ++ left :: right :: back) (tied : r right left)
    : ∃ swapped : Served r rows, swapped.list = front ++ right :: left :: back := by
  have perm : (front ++ right :: left :: back).Perm served.list := by
    rw [split]
    exact (List.Perm.swap left right back).append_left front
  have ordered := served.ordered
  simp only [split, List.pairwise_append, List.pairwise_cons, List.forall_mem_cons] at ordered
  obtain ⟨fronts, ⟨⟨_, lefts⟩, rights, backs⟩, apart⟩ := ordered
  refine ⟨⟨front ++ right :: left :: back, perm.trans served.perm, ?_⟩, rfl⟩
  simp only [List.pairwise_append, List.pairwise_cons, List.forall_mem_cons]
  refine ⟨fronts, ⟨⟨tied, rights⟩, lefts, backs⟩, ?_⟩
  intro row member
  obtain ⟨toLeft, toRight, toBack⟩ := apart row member
  exact ⟨toRight, toLeft, toBack⟩

theorem split_at_cut {list : List α} {index : ℕ} {left right : α}
    (found : list[index]? = some left) (found' : list[index + 1]? = some right)
    : list = list.take index ++ left :: right :: list.drop (index + 2) := by
  obtain ⟨bound, rfl⟩ := List.getElem?_eq_some_iff.mp found
  obtain ⟨bound', rfl⟩ := List.getElem?_eq_some_iff.mp found'
  rw [← List.drop_eq_getElem_cons bound', ← List.drop_eq_getElem_cons bound,
    List.take_append_drop]

theorem not_perm_of_shared {served : ℕ → Served r rows} {size count first second : ℕ}
    (distinct : rows.Nodup) (order : first < second) (inside : second < count) {row : α}
    (member : row ∈ offsetPage (served (first + 1)).list (first + 1) size)
    (member' : row ∈ offsetPage (served (second + 1)).list (second + 1) size)
    : ¬ (joinedPages served size count).Perm rows := by
  intro same
  obtain ⟨_, apart⟩ := List.nodup_flatMap.mp (same.nodup_iff.mpr distinct)
  have pages := List.pairwise_iff_getElem.mp apart first second (by simp; omega) (by simpa) order
  simp only [Function.onFun, List.getElem_range] at pages
  exact pages member member'

theorem exists_repeated (first : Served r rows) (distinct : rows.Nodup) {size count : ℕ}
    (positive : 0 < size) {left right : α}
    (found : first.list[(count + 1) * size - 1]? = some left)
    (found' : first.list[(count + 1) * size]? = some right) (tied : r right left)
    : ∃ served : ℕ → Served r rows,
        ¬ (joinedPages served size (pageCount rows.length size)).Perm rows := by
  have whole : 0 < (count + 1) * size := Nat.mul_pos (Nat.succ_pos count) positive
  have next : (count + 1) * size = ((count + 1) * size - 1) + 1 := by omega
  have split := split_at_cut found (next ▸ found')
  obtain ⟨swapped, list⟩ := first.exists_swap split tied
  have long : (count + 1) * size < first.list.length :=
    (List.getElem?_eq_some_iff.mp found').1
  have taken : (first.list.take ((count + 1) * size - 1)).length = (count + 1) * size - 1 := by
    rw [List.length_take]
    omega
  have pages : count + 1 < pageCount rows.length size := by
    have bound := @le_pageCount_mul rows.length size positive
    rw [← first.perm.length_eq] at bound ⊢
    exact Nat.lt_of_mul_lt_mul_right (long.trans_le bound)
  refine ⟨fun page => if page ≤ count + 1 then first else swapped, ?_⟩
  refine @not_perm_of_shared _ _ _ _ _ _ count (count + 1) distinct (Nat.lt_succ_self count) pages
    left ?_ ?_
  · rw [if_pos le_rfl, offsetPage, Nat.add_sub_cancel]
    refine List.mem_of_getElem? (i := size - 1) ?_
    rw [List.getElem?_take_of_lt (by omega), List.getElem?_drop]
    have place : count * size + (size - 1) = (count + 1) * size - 1 := by
      rw [Nat.add_mul, Nat.one_mul]
      omega
    rw [place, found]
  · rw [if_neg (by omega), offsetPage, Nat.add_sub_cancel, list]
    refine List.mem_of_getElem? (i := 0) ?_
    rw [List.getElem?_take_of_lt positive, List.getElem?_drop,
      List.getElem?_append_right (by omega), taken]
    have place : (count + 1) * size + 0 - ((count + 1) * size - 1) = 1 := by omega
    rw [place]
    rfl

theorem joinedPages_perm_iff [DecidableRel r] [Std.Total r] [IsTrans α r] (first : Served r rows)
    (distinct : rows.Nodup) {size : ℕ} (positive : 0 < size)
    : (∀ served : ℕ → Served r rows,
        (joinedPages served size (pageCount rows.length size)).Perm rows)
      ↔ SeparatedCuts r size first.list := by
  constructor
  · intro complete count left right found found' tied
    obtain ⟨served, repeated⟩ := exists_repeated first distinct positive found found' tied
    exact repeated (complete served)
  · intro separated served
    have joined := joinedPages_perm first separated served (pageCount rows.length size)
    rw [List.take_of_length_le
      (first.perm.length_eq.le.trans (le_pageCount_mul positive))] at joined
    exact joined.trans first.perm

theorem separatedCuts_of_apart (first : Served r rows) (distinct : rows.Nodup) {size : ℕ}
    (positive : 0 < size)
    (apart : ∀ left ∈ rows, ∀ right ∈ rows, r left right → r right left → left = right)
    : SeparatedCuts r size first.list := by
  intro count left right found found' tied
  have whole : 0 < (count + 1) * size := Nat.mul_pos (Nat.succ_pos count) positive
  obtain ⟨bound, rfl⟩ := List.getElem?_eq_some_iff.mp found
  obtain ⟨bound', rfl⟩ := List.getElem?_eq_some_iff.mp found'
  have below := List.pairwise_iff_getElem.mp first.ordered _ _ bound bound' (by omega)
  have same := apart _ (first.perm.subset (List.getElem_mem bound)) _
    (first.perm.subset (List.getElem_mem bound')) below tied
  have places := (List.Nodup.getElem_inj_iff (first.perm.nodup_iff.mpr distinct)).mp same
  omega

end RomaBridge.Foundation
