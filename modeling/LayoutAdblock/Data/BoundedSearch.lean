import Mathlib.Data.List.Basic
import Mathlib.Order.Defs.PartialOrder
import Mathlib.Data.Int.Order.Basic

namespace LayoutAdblock.Data

/-! # Searches with a depth limit

Neither search remembers what it has visited, so an item may be met many times
and a cycle is walked round until the limit ends it.
-/

variable {α β : Type*} {node : α → Option β} {next : α → List α} {test : β → Bool}

/-- A path of `edges` steps whose items all have a node. -/
inductive NodePath (node : α → Option β) (next : α → List α) : Nat → α → α → Prop where
  | here {item : α} (present : (node item).isSome = true) : NodePath node next 0 item item
  | step {edges : Nat} {item child target : α} (present : (node item).isSome = true)
      (listed : child ∈ next item) (rest : NodePath node next edges child target) :
      NodePath node next (edges + 1) item target

/-- An item within the limit that passes the test. -/
def Found (node : α → Option β) (next : α → List α) (test : β → Bool) (item : α)
    (limit : Int) : Prop :=
  ∃ (edges : Nat) (target : α) (found : β), (edges : Int) ≤ limit ∧
    NodePath node next edges item target ∧ node target = some found ∧ test found = true

/-- The recursion, which gives up when the fuel runs out. Its result is none then, which no
amount of fuel from some point on is. -/
def search (node : α → Option β) (next : α → List α) (test : β → Bool) :
    Nat → α → Int → Option Bool
  | 0, _, _ => none
  | fuel + 1, item, limit =>
      if limit < 0 then some false
      else
        match node item with
        | none => some false
        | some found =>
            if test found then some true
            else (next item).anyM fun child => search node next test fuel child (limit - 1)

theorem anyM_some {visit : α → Option Bool} {answer : α → Bool} {items : List α}
    (visits : ∀ item, visit item = some (answer item)) :
    items.anyM visit = some (items.any answer) := by
  induction items with
  | nil => rfl
  | cons head rest ih =>
      rw [List.anyM, visits, List.any_cons]
      cases answer head with
      | true => rfl
      | false => exact ih

theorem not_found_below {item : α} {limit : Int} (below : limit < 0) :
    ¬ Found node next test item limit := by
  intro found
  obtain ⟨edges, _, _, within, _⟩ := found
  omega

theorem not_found_of_none {item : α} {limit : Int} (missing : node item = none) :
    ¬ Found node next test item limit := by
  intro found
  obtain ⟨_, _, _, _, path, _⟩ := found
  cases path with
  | here present => simp [missing] at present
  | step present _ _ => simp [missing] at present

/-- Behind an item that fails the test the search goes on at what it lists. -/
theorem found_iff_next {item : α} {limit : Int} {own : β} (present : node item = some own)
    (failed : test own = false) :
    Found node next test item limit ↔
      ∃ child ∈ next item, Found node next test child (limit - 1) := by
  constructor
  · intro found
    obtain ⟨edges, target, found, within, path, isTarget, passes⟩ := found
    cases path with
    | here _ =>
        obtain rfl := Option.some.inj (present.symm.trans isTarget)
        rw [failed] at passes
        cases passes
    | @step edges _ child _ _ listed rest =>
        exact ⟨child, listed, edges, target, found, by omega, rest, isTarget, passes⟩
  · intro deeper
    obtain ⟨child, listed, edges, target, found, within, path, isTarget, passes⟩ := deeper
    refine ⟨edges + 1, target, found, by omega, ?_, isTarget, passes⟩
    exact NodePath.step (present ▸ rfl) listed path

open Classical in

/-- The recursion returns, and finds exactly what is within the limit. -/
theorem search_eq {fuel : Nat} {item : α} {limit : Int} (enough : (limit + 1).toNat < fuel) :
    search node next test fuel item limit = some (decide (Found node next test item limit)) := by
  induction fuel generalizing item limit with
  | zero => omega
  | succ fuel ih =>
      rw [search]
      by_cases below : limit < 0
      · rw [if_pos below, decide_eq_false (not_found_below below)]
      · rw [if_neg below]
        cases present : node item with
        | none => simp [not_found_of_none present]
        | some own =>
            cases passes : test own with
            | true =>
                have found : Found node next test item limit :=
                  ⟨0, item, own, by omega, NodePath.here (present ▸ rfl), present, passes⟩
                simp [passes, found]
            | false =>
                have children : ∀ child, search node next test fuel child (limit - 1) =
                    some (decide (Found node next test child (limit - 1))) :=
                  fun child => ih (by omega)
                simp only [passes, Bool.false_eq_true, if_false]
                rw [anyM_some children]
                congr 1
                rw [Bool.eq_iff_iff, List.any_eq_true, decide_eq_true_iff,
                  found_iff_next present passes]
                simp only [decide_eq_true_eq]

/-- The levels below a level, each item with its depth. -/
def levelsFrom (next : α → List α) : Nat → Int → List α → List (α × Int)
  | 0, _, _ => []
  | levels + 1, depth, level =>
      level.map (fun item => (item, depth)) ++
        levelsFrom next levels (depth + 1) (level.flatMap next)

/-- The loop over a queue that grows at its end, which gives up when the fuel runs out. -/
def queueLoop (next : α → List α) (limit : Int) :
    Nat → List (α × Int) → Nat → List (α × Int) → Option (List (α × Int))
  | 0, _, _, _ => none
  | fuel + 1, queue, index, found =>
      match queue[index]? with
      | none => some found
      | some (item, depth) =>
          let grown :=
            if limit ≤ depth then queue
            else queue ++ (next item).map fun child => (child, depth + 1)
          queueLoop next limit fuel grown (index + 1) (found ++ [(item, depth)])

theorem getElem?_of_drop_cons {queue rest : List α} {index : Nat} {head : α}
    (pending : queue.drop index = head :: rest) : queue[index]? = some head := by
  rw [← List.head?_drop, pending]
  rfl

theorem drop_of_drop_cons {queue rest more : List α} {index : Nat} {head : α}
    (pending : queue.drop index = head :: rest) :
    (queue ++ more).drop (index + 1) = rest ++ more := by
  have inside : index < queue.length := by
    by_contra outside
    rw [List.drop_eq_nil_of_le (Nat.le_of_not_lt outside)] at pending
    cases pending
  rw [List.drop_append_of_le_length inside, ← List.tail_drop, pending, List.tail_cons]

/-- What the loop has pending is the rest of one level and what its start has pushed of
the next. -/
theorem queueLoop_eq {limit : Int} (levels : Nat) {depth : Int} (reach : limit = depth + levels)
    {current following : List α} {queue found : List (α × Int)} {index fuel : Nat}
    (pending : queue.drop index = current.map (fun item => (item, depth)) ++
      following.map fun item => (item, depth + 1))
    (last : levels = 0 → following = [])
    (enough : (current.map (fun item => (item, depth)) ++
      levelsFrom next levels (depth + 1) (following ++ current.flatMap next)).length < fuel) :
    queueLoop next limit fuel queue index found =
      some (found ++ (current.map (fun item => (item, depth)) ++
        levelsFrom next levels (depth + 1) (following ++ current.flatMap next))) := by
  induction levels generalizing depth current following queue found index fuel with
  | zero =>
      obtain rfl := last rfl
      rw [List.map_nil, List.append_nil] at pending
      simp only [levelsFrom, List.append_nil, List.length_map] at enough ⊢
      induction current generalizing queue found index fuel with
      | nil =>
          obtain ⟨fuel, rfl⟩ := Nat.exists_eq_succ_of_ne_zero (Nat.ne_of_gt enough)
          have done : queue[index]? = none := by
            rw [← List.head?_drop, pending]
            rfl
          simp only [queueLoop, done, List.map_nil, List.append_nil]
      | cons head rest inner =>
          obtain ⟨fuel, rfl⟩ := Nat.exists_eq_succ_of_ne_zero (Nat.ne_zero_of_lt enough)
          have here := getElem?_of_drop_cons pending
          have deepest : limit ≤ depth := by omega
          have later : (queue ++ []).drop (index + 1) =
              rest.map (fun item => (item, depth)) ++ [] := drop_of_drop_cons pending
          rw [List.append_nil, List.append_nil] at later
          simp only [queueLoop, here, deepest, if_true]
          rw [inner later (Nat.lt_of_succ_lt_succ enough)]
          simp
  | succ levels ih =>
      induction current generalizing queue found index fuel following with
      | nil =>
          -- The level is done, and what has been pushed is the whole next one.
          have reached : limit = depth + 1 + levels := by omega
          have whole : queue.drop index = following.map (fun item => (item, depth + 1)) ++
              ([] : List α).map fun item => (item, depth + 1 + 1) := by
            rw [pending]
            simp
          rw [ih reached whole (fun _ => rfl) (by simpa [levelsFrom] using enough)]
          simp [levelsFrom]
      | cons head rest inner =>
          obtain ⟨fuel, rfl⟩ := Nat.exists_eq_succ_of_ne_zero (Nat.ne_zero_of_lt enough)
          have here := getElem?_of_drop_cons pending
          have above : ¬ limit ≤ depth := by omega
          have later : (queue ++ (next head).map fun child => (child, depth + 1)).drop
              (index + 1) = rest.map (fun item => (item, depth)) ++
                (following ++ next head).map fun item => (item, depth + 1) := by
            rw [List.map_append, ← List.append_assoc]
            exact drop_of_drop_cons pending
          have shorter := Nat.lt_of_succ_lt_succ enough
          simp only [List.append_eq, List.flatMap_cons, ← List.append_assoc following] at shorter
          simp only [queueLoop, here, above, if_false]
          rw [inner later (fun none => absurd none (Nat.succ_ne_zero levels)) shorter]
          simp

/-- The loop returns the levels one after the other. -/
theorem queueLoop_levels {limit : Int} {level : List α} {levels fuel : Nat}
    (reach : limit = levels + 1)
    (enough : (levelsFrom next (levels + 1) 1 level).length < fuel) :
    queueLoop next limit fuel (level.map fun item => (item, 1)) 0 [] =
      some (levelsFrom next (levels + 1) 1 level) := by
  have whole : (level.map fun item => (item, (1 : Int))).drop 0 =
      level.map (fun item => (item, 1)) ++ ([] : List α).map fun item => (item, 1 + 1) := by
    simp
  have reached : limit = 1 + (levels : Int) := by omega
  rw [queueLoop_eq levels reached whole (fun _ => rfl) (by simpa [levelsFrom] using enough)]
  simp [levelsFrom]

theorem depth_of_mem_levelsFrom {levels : Nat} {depth found : Int} {level : List α} {item : α}
    (member : (item, found) ∈ levelsFrom next levels depth level) : depth ≤ found := by
  induction levels generalizing depth level with
  | zero => simp [levelsFrom] at member
  | succ levels ih =>
      rw [levelsFrom, List.mem_append] at member
      cases member with
      | inl here =>
          obtain ⟨_, _, same⟩ := List.mem_map.mp here
          exact le_of_eq (Prod.mk.inj same).2
      | inr deeper =>
          have := ih deeper
          omega

/-- The depths do not decrease. -/
theorem levelsFrom_sorted (next : α → List α) (levels : Nat) (depth : Int) (level : List α) :
    ((levelsFrom next levels depth level).map Prod.snd).Pairwise (· ≤ ·) := by
  induction levels generalizing depth level with
  | zero => exact List.Pairwise.nil
  | succ levels ih =>
      rw [levelsFrom, List.map_append, List.pairwise_append]
      have atDepth : ∀ found ∈ (level.map fun item => (item, depth)).map Prod.snd,
          found = depth := by
        intro found member
        simp only [List.map_map, List.mem_map] at member
        obtain ⟨_, _, rfl⟩ := member
        rfl
      refine ⟨?_, ih _ _, ?_⟩
      · exact List.pairwise_of_forall_mem_list fun first inFirst second inSecond => by
          rw [atDepth first inFirst, atDepth second inSecond]
      · intro first inFirst second inSecond
        obtain ⟨⟨item, found⟩, member, rfl⟩ := List.mem_map.mp inSecond
        rw [atDepth first inFirst]
        have := depth_of_mem_levelsFrom member
        change depth ≤ found
        omega

end LayoutAdblock.Data
