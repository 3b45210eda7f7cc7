import Mathlib.Tactic
import Mathlib.Data.List.TakeDrop

/-!
# Windows of a linear memory

A memory is a list of cells. `window` reads the cells between two positions, `store`
overwrites consecutive cells, and `copyForward` moves cells one at a time in increasing
order, so that with overlapping ranges a later read may see an earlier write. The lemmas
say how a window is changed by a store at one of its ends, by dropping cells from
either side, by growing the memory, and by a forward copy towards lower positions.
-/
namespace Starry.Foundation.Memory

variable {α : Type}

def window (memory : List α) (start stop : Nat) : List α :=
  (memory.drop start).take (stop - start)

def store (memory : List α) (position : Nat) (data : List α) : List α :=
  memory.take position ++ data ++ memory.drop (position + data.length)

/-- One cell after the other, in increasing order of positions. -/
def copyForward (memory : List α) (source dest : Nat) : Nat → List α
  | 0 => memory
  | n + 1 =>
    match memory[source]? with
    | some cell => copyForward (memory.set dest cell) (source + 1) (dest + 1) n
    | none => memory

theorem window_length (memory : List α) (start stop : Nat) (inside : stop ≤ memory.length) :
    (window memory start stop).length = stop - start := by
  simp only [window, List.length_take, List.length_drop]
  omega

@[simp] theorem window_self (memory : List α) (position : Nat) :
    window memory position position = [] := by
  simp [window]

theorem window_drop (memory : List α) (start stop count : Nat) :
    window memory (start + count) stop = (window memory start stop).drop count := by
  rw [window, window, List.drop_take, List.drop_drop]
  congr 1
  omega

theorem window_take (memory : List α) (start stop count : Nat) (fits : start + count ≤ stop) :
    window memory start (start + count) = (window memory start stop).take count := by
  rw [window, window, List.take_take]
  congr 1
  omega

/-- Memory that is added at the end is not in the window. -/
theorem window_grow (memory extra : List α) (start stop : Nat) (inside : stop ≤ memory.length) :
    window (memory ++ extra) start stop = window memory start stop := by
  by_cases ordered : start ≤ memory.length
  · rw [window, window, List.drop_append_of_le_length ordered, List.take_append_of_le_length]
    rw [List.length_drop]
    omega
  · have none : stop - start = 0 := by omega
    simp [window, none]

/-- Storing does not change how much memory there is. -/
theorem store_length (memory data : List α) (position : Nat)
    (fits : position + data.length ≤ memory.length) :
    (store memory position data).length = memory.length := by
  simp only [store, List.length_append, List.length_take, List.length_drop]
  omega

@[simp] theorem store_nil (memory : List α) (position : Nat) : store memory position [] = memory := by
  simp [store]

/-- A store behind the end of a window leaves it alone. -/
theorem window_store_after (memory data : List α) (start stop position : Nat)
    (after : stop ≤ position) (inside : position ≤ memory.length) :
    window (store memory position data) start stop = window memory start stop := by
  have low : stop ≤ (memory.take position).length := by simp; omega
  rw [store, List.append_assoc, window_grow _ _ _ _ low]
  conv_rhs => rw [← List.take_append_drop position memory]
  exact (window_grow _ _ _ _ low).symm

/-- The cells just stored are read back as stored. -/
theorem window_store_self (memory data : List α) (position : Nat)
    (inside : position ≤ memory.length) :
    window (store memory position data) position (position + data.length) = data := by
  have low : position = (memory.take position).length := by simp; omega
  rw [window, store, List.append_assoc]
  conv_lhs => rw [show position + data.length - position = data.length by omega]
  nth_rewrite 1 [low]
  rw [List.drop_left, List.take_left]

/-- A store in front of a window leaves it alone. -/
theorem window_store_before (memory data : List α) (start stop position : Nat)
    (before : position + data.length ≤ start) (inside : position ≤ memory.length) :
    window (store memory position data) start stop = window memory start stop := by
  have low : (memory.take position ++ data).length = position + data.length := by simp; omega
  have tail : (store memory position data).drop start = memory.drop start := by
    rw [store, List.drop_append, low, List.drop_drop,
      List.drop_eq_nil_of_le (by rw [low]; exact before), List.nil_append]
    congr 1
    omega
  rw [window, window, tail]

theorem window_split (memory : List α) (start middle stop : Nat)
    (low : start ≤ middle) (high : middle ≤ stop) :
    window memory start stop = window memory start middle ++ window memory middle stop := by
  obtain ⟨count, rfl⟩ := Nat.exists_eq_add_of_le low
  rw [window_take memory start stop count high, window_drop]
  exact (List.take_append_drop count _).symm

/-- Writing at the end of a window and widening it appends. -/
theorem window_append (memory data : List α) (start stop : Nat)
    (ordered : start ≤ stop) (inside : stop ≤ memory.length) :
    window (store memory stop data) start (stop + data.length) =
      window memory start stop ++ data := by
  rw [window_split _ start stop _ ordered (by omega),
    window_store_after _ _ _ _ _ (Nat.le_refl _) inside, window_store_self _ _ _ inside]

/-- Writing in front of a window and widening it prepends. -/
theorem window_prepend (memory data : List α) (start stop : Nat)
    (room : data.length ≤ start) (ordered : start ≤ stop) (inside : start ≤ memory.length) :
    window (store memory (start - data.length) data) (start - data.length) stop =
      data ++ window memory start stop := by
  have back : start - data.length + data.length = start := by omega
  have self := window_store_self memory data (start - data.length) (by omega)
  rw [back] at self
  rw [window_split _ (start - data.length) start _ (by omega) ordered, self,
    window_store_before _ _ _ _ _ (by omega) (by omega)]

theorem copyForward_length (memory : List α) (source dest n : Nat) :
    (copyForward memory source dest n).length = memory.length := by
  induction n generalizing memory source dest with
  | zero => rfl
  | succ n ih =>
    rw [copyForward]
    split
    · rw [ih, List.length_set]
    · rfl

/-- Towards lower positions a forward copy never reads a cell it has already
overwritten, so the whole source range arrives unchanged. -/
theorem copyForward_eq_store (memory : List α) (source dest n : Nat)
    (lower : dest ≤ source) (inside : source + n ≤ memory.length) :
    copyForward memory source dest n = store memory dest (window memory source (source + n)) := by
  induction n generalizing memory source dest with
  | zero => simp [copyForward]
  | succ n ih =>
    have here : source < memory.length := by omega
    rw [copyForward, List.getElem?_eq_getElem here]
    simp only
    rw [ih _ _ _ (by omega) (by simp; omega)]
    -- the cell written lies below the cells still to be read
    have unread : window (memory.set dest memory[source]) (source + 1) (source + 1 + n) =
        window memory (source + 1) (source + 1 + n) := by
      rw [window, window, List.drop_set_of_lt (by omega)]
    have whole : window memory source (source + (n + 1)) =
        memory[source] :: window memory (source + 1) (source + 1 + n) := by
      rw [window, List.drop_eq_getElem_cons here, window,
        show source + (n + 1) - source = n + 1 by omega, List.take_succ_cons,
        show source + 1 + n - (source + 1) = n by omega]
    rw [unread, whole, store, store, List.length_cons, List.take_add_one,
      List.take_set_of_le (Nat.le_refl _), List.getElem?_set_self (by omega),
      List.drop_set_of_lt (by omega)]
    generalize window memory (source + 1) (source + 1 + n) = rest
    have shift : dest + (rest.length + 1) = dest + 1 + rest.length := by omega
    rw [shift]
    simp

end Starry.Foundation.Memory
