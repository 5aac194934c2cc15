import Mathlib.Logic.Function.Basic
import Mathlib.Tactic.Ring

/-!
# CamDriver.Lib.Grid

Rectangles of values laid out row by row in a list, and the two ways to cut a
rectangle with even sides into four of half the size: by parity (`unshuffle`) and
by quarter (`disassemble`).

Nothing here depends on what the values are.
-/

namespace Grid

variable {α : Type*} [Inhabited α]

/-! ## Row-major rectangles -/

/-- The value in row `y` and column `x` of a rectangle of width `w`. -/
def cell (values : List α) (w y x : Nat) : α := values.getD (y * w + x) default

/-- A rectangle of `h` rows and `w` columns. -/
def grid (h w : Nat) (f : Nat → Nat → α) : List α :=
  (List.range (h * w)).map fun j => f (j / w) (j % w)

omit [Inhabited α] in
/-- A grid has as many cells as its sides say. -/
@[simp] theorem length_grid (h w : Nat) (f : Nat → Nat → α) : (grid h w f).length = h * w := by
  simp [grid]

/-- A cell inside the sides is inside the list. -/
theorem index_lt {h w y x : Nat} (hy : y < h) (hx : x < w) : y * w + x < h * w := by
  calc y * w + x < y * w + w := Nat.add_lt_add_left hx _
    _ = (y + 1) * w := by ring
    _ ≤ h * w := Nat.mul_le_mul_right w hy

/-- The cell at a place is the value there. -/
theorem cell_grid {h w y x : Nat} (hy : y < h) (hx : x < w) (f : Nat → Nat → α) :
    cell (grid h w f) w y x = f y x := by
  have hw : 0 < w := Nat.zero_lt_of_lt hx
  have hdiv : (y * w + x) / w = y := by
    rw [Nat.mul_comm, Nat.mul_add_div hw, Nat.div_eq_of_lt hx, Nat.add_zero]
  have hmod : (y * w + x) % w = x := by
    rw [Nat.mul_comm, Nat.mul_add_mod, Nat.mod_eq_of_lt hx]
  simp [cell, grid, List.getD_eq_getElem?_getD, index_lt hy hx, hdiv, hmod]

/-- A row-major list is the rectangle of its own cells. -/
theorem grid_cell {h w : Nat} {values : List α} (hlen : values.length = h * w) :
    grid h w (cell values w) = values := by
  refine List.ext_getElem (by simp [hlen]) fun j hj _ => ?_
  have hj' : j < values.length := by simpa [hlen] using hj
  simp only [grid, List.getElem_map, List.getElem_range, cell, List.getD_eq_getElem?_getD]
  rw [Nat.mul_comm, Nat.div_add_mod, List.getElem?_eq_getElem hj', Option.getD_some]

omit [Inhabited α] in
/-- Grids that agree at every place are one. -/
theorem grid_congr {h w : Nat} {f g : Nat → Nat → α} (hfg : ∀ y < h, ∀ x < w, f y x = g y x) :
    grid h w f = grid h w g := by
  refine List.map_congr_left fun j hj => ?_
  have hj : j < h * w := List.mem_range.mp hj
  have hw : 0 < w := Nat.pos_of_ne_zero fun hw => by simp [hw] at hj
  exact hfg _ (Nat.div_lt_of_lt_mul (by rwa [Nat.mul_comm])) _ (Nat.mod_lt _ hw)

/-- The cells of a rectangle, row by row. -/
def cells (h w : Nat) : List (Nat × Nat) :=
  (List.range h).flatMap fun y => (List.range w).map fun x => (y, x)

/-- Row by row, the cells are numbered without a gap. -/
theorem cells_eq (h w : Nat) : cells h w = grid h w Prod.mk := by
  induction h with
  | zero => simp [cells, grid]
  | succ h ih =>
      have row : (List.range w).map (fun x => (h, x)) =
          (List.range w).map fun x => ((h * w + x) / w, (h * w + x) % w) := by
        refine List.map_congr_left fun x hx => ?_
        have hx : x < w := List.mem_range.mp hx
        have hw : 0 < w := Nat.zero_lt_of_lt hx
        rw [Nat.mul_comm, Nat.mul_add_div hw, Nat.mul_add_mod, Nat.div_eq_of_lt hx,
          Nat.mod_eq_of_lt hx, Nat.add_zero]
      have split : cells (h + 1) w = cells h w ++ (List.range w).map fun x => (h, x) := by
        simp [cells, List.range_succ]
      rw [split, ih, row, grid, grid, Nat.succ_mul, List.range_add, List.map_append, List.map_map]
      rfl

/-- A cell inside a rectangle is one of its values. -/
theorem getElem?_eq_some_cell {h w y x : Nat} {values : List α} (hlen : values.length = h * w)
    (hy : y < h) (hx : x < w) : values[y * w + x]? = some (cell values w y x) := by
  have hlt : y * w + x < values.length := hlen ▸ index_lt hy hx
  rw [cell, List.getD_eq_getElem?_getD, List.getElem?_eq_getElem hlt, Option.getD_some]

/-! ## Four rectangles in one -/

/-- Which of the four: the row and the column of a two by two block. -/
abbrev Quarter := Fin 2 × Fin 2

/-- Four rectangles of half the size. -/
abbrev Quarters (α : Type*) := Quarter → Nat → Nat → α

/-- The parity of a coordinate. -/
def parity (n : Nat) : Fin 2 := ⟨n % 2, Nat.mod_lt n Nat.two_pos⟩

/-- Four rectangles mixed by parity: value `(i, k)` of quarter `(r, c)` goes to
`(2 i + r, 2 k + c)`. -/
def shuffle (h w : Nat) (q : Quarters α) : List α :=
  grid h w fun y x => q (parity y, parity x) (y / 2) (x / 2)

/-- The four rectangles that `shuffle` mixes. -/
def unshuffle (values : List α) (w : Nat) : Quarters α :=
  fun p i k => cell values w (i * 2 + p.1) (k * 2 + p.2)

/-- Four rectangles side by side: value `(i, k)` of quarter `(r, c)` goes to
`(r (h / 2) + i, c (w / 2) + k)`. -/
def assemble (h w : Nat) (q : Quarters α) : List α :=
  grid h w fun y x =>
    q (parity (y / (h / 2)), parity (x / (w / 2))) (y % (h / 2)) (x % (w / 2))

/-- The four rectangles that `assemble` puts together. -/
def disassemble (values : List α) (h w : Nat) : Quarters α :=
  fun p i k => cell values w (p.1 * (h / 2) + i) (p.2 * (w / 2) + k)

/-- Two families of quarters agree inside the rectangle. -/
def SameQuarters (h w : Nat) (q q' : Quarters α) : Prop :=
  ∀ p, ∀ i < h / 2, ∀ k < w / 2, q p i k = q' p i k

omit [Inhabited α] in
/-- Agreement of quarters is symmetric. -/
theorem SameQuarters.symm {h w : Nat} {q q' : Quarters α} (hq : SameQuarters h w q q') :
    SameQuarters h w q' q := fun p i hi k hk => (hq p i hi k hk).symm

omit [Inhabited α] in
/-- It is transitive. -/
theorem SameQuarters.trans {h w : Nat} {q q' q'' : Quarters α} (hq : SameQuarters h w q q')
    (hq' : SameQuarters h w q' q'') : SameQuarters h w q q'' :=
  fun p i hi k hk => (hq p i hi k hk).trans (hq' p i hi k hk)

omit [Inhabited α] in
/-- A shuffle moves cells and loses none. -/
@[simp] theorem length_shuffle (h w : Nat) (q : Quarters α) : (shuffle h w q).length = h * w :=
  length_grid _ _ _

omit [Inhabited α] in
/-- So does an assembly. -/
@[simp] theorem length_assemble (h w : Nat) (q : Quarters α) : (assemble h w q).length = h * w :=
  length_grid _ _ _

/-- To take the quarters apart and shuffle them back. -/
theorem shuffle_unshuffle {h w : Nat} {values : List α} (hlen : values.length = h * w) :
    shuffle h w (unshuffle values w) = values := by
  calc shuffle h w (unshuffle values w) = grid h w (cell values w) := by
        refine grid_congr fun y _ x _ => ?_
        simp only [unshuffle, parity]
        congr 1 <;> omega
    _ = values := grid_cell hlen

section Even

variable {h w : Nat} (hh : h % 2 = 0) (hw : w % 2 = 0)
include hh hw

/-- To shuffle quarters and take them apart again. -/
theorem unshuffle_shuffle (q : Quarters α) :
    SameQuarters h w (unshuffle (shuffle h w q) w) q := by
  rintro ⟨r, c⟩ i hi k hk
  simp only [unshuffle, shuffle]
  rw [cell_grid (by omega) (by omega)]
  have hr : parity (i * 2 + r) = r := Fin.ext (show (i * 2 + r.val) % 2 = r.val by omega)
  have hc : parity (k * 2 + c) = c := Fin.ext (show (k * 2 + c.val) % 2 = c.val by omega)
  rw [hr, hc, show (i * 2 + r) / 2 = i by omega, show (k * 2 + c) / 2 = k by omega]

/-- The same for a mosaic. -/
theorem disassemble_assemble (q : Quarters α) :
    SameQuarters h w (disassemble (assemble h w q) h w) q := by
  rintro ⟨r, c⟩ i hi k hk
  have hy : r * (h / 2) + i < h := (index_lt r.isLt hi).trans_le (by omega)
  have hx : c * (w / 2) + k < w := (index_lt c.isLt hk).trans_le (by omega)
  simp only [disassemble, assemble]
  rw [cell_grid hy hx]
  have hdiv : ∀ (b : Fin 2) {n j : Nat}, j < n → (b * n + j) / n = b ∧ (b * n + j) % n = j := by
    intro b n j hj
    constructor
    · rw [Nat.mul_comm, Nat.mul_add_div (by omega), Nat.div_eq_of_lt hj, Nat.add_zero]
    · rw [Nat.mul_comm, Nat.mul_add_mod, Nat.mod_eq_of_lt hj]
  rw [(hdiv r hi).1, (hdiv r hi).2, (hdiv c hk).1, (hdiv c hk).2]
  have hof : ∀ b : Fin 2, parity b = b := fun b => Fin.ext (Nat.mod_eq_of_lt b.isLt)
  rw [hof, hof]

/-- A shuffle determines its quarters. -/
theorem shuffle_inj {q q' : Quarters α} :
    shuffle h w q = shuffle h w q' ↔ SameQuarters h w q q' := by
  constructor
  · intro heq
    have hq := unshuffle_shuffle hh hw q
    rw [heq] at hq
    exact hq.symm.trans (unshuffle_shuffle hh hw q')
  · intro hq
    exact grid_congr fun y hy x hx => hq _ _ (by omega) _ (by omega)

omit [Inhabited α] in
/-- An assembly looks at its quarters only inside the sides. -/
theorem assemble_congr {q q' : Quarters α} (hq : SameQuarters h w q q') :
    assemble h w q = assemble h w q' :=
  grid_congr fun _ hy _ hx => hq _ _ (Nat.mod_lt _ (by omega)) _ (Nat.mod_lt _ (by omega))

/-- A mosaic is assembled from its own quarters. -/
theorem assemble_disassemble {values : List α} (hlen : values.length = h * w) :
    assemble h w (disassemble values h w) = values := by
  calc assemble h w (disassemble values h w) = grid h w (cell values w) := by
        refine grid_congr fun y hy x hx => ?_
        have hof : ∀ {n j : Nat}, n % 2 = 0 → j < n →
            (parity (j / (n / 2)) : Nat) * (n / 2) + j % (n / 2) = j := by
          intro n j hn hj
          have hlt : j / (n / 2) < 2 := Nat.div_lt_of_lt_mul (by omega)
          rw [show (parity (j / (n / 2)) : Nat) = j / (n / 2) from Nat.mod_eq_of_lt hlt,
            Nat.mul_comm, Nat.div_add_mod]
        simp only [disassemble]
        rw [hof hh hy, hof hw hx]
    _ = values := grid_cell hlen

end Even

end Grid
