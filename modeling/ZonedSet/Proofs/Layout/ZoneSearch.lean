/-
ZonedSet.Proofs.Layout.ZoneSearch — the search by halving finds the zone that holds a block.

There is an answer for every block if all zones end at words (`Layout.exists_zoneNumber`). For what
it is, all that the search relies on is order: before a zone that is over at a sector, every zone is
over. Where that is so, the search counts the zones that are over (`Layout.exists_bisect`). It is so
for zones in ascending order, with gaps between them or without (`Layout.Ascending.over_of_le`). The
look-up then only has to see whether the first zone that is not over has begun
(`Layout.exists_zoneIndex`). So it finds what a search from the first zone on finds, and the number
that it gives loses nothing in its word (`Layout.zoneNumber?_eq_firstHolder?`).
-/
import ZonedSet.Layout

namespace ZonedSet

/-- The zone holds a sector. -/
def Zone.Holds (z : Zone) (sector : Nat) : Prop := z.start ≤ sector ∧ sector < z.start + z.length

instance Zone.decidableHolds (z : Zone) (sector : Nat) : Decidable (z.Holds sector) :=
  inferInstanceAs (Decidable (_ ∧ _))

namespace Layout

variable {zones : Array Zone} {sector block i j k : Nat} {z : Zone}

/-- The zones are in ascending order: each ends at or before the start of the next one, and all of
them end within 64-bit words. -/
structure Ascending (zones : Array Zone) : Prop where
  stop_lt : ∀ (i : Nat) (z : Zone), zones[i]? = some z → z.start + z.length < Word.limit
  next : ∀ (i : Nat) (z after : Zone), zones[i]? = some z → zones[i + 1]? = some after →
    z.start + z.length ≤ after.start

/-- There is a zone at the index, and it is over at the sector. -/
def Over (zones : Array Zone) (sector i : Nat) : Prop :=
  ∃ z, zones[i]? = some z ∧ z.stop ≤ sector

instance (zones : Array Zone) (sector i : Nat) : Decidable (Over zones sector i) :=
  decidable_of_iff (zones[i]?.any (·.stop ≤ sector) = true) (by simp [Over, Option.any_eq_true])

namespace Ascending

variable (ascending : Ascending zones)
include ascending

/-- The zone before one that has begun is over. -/
theorem over_of_next (hi : zones[i + 1]? = some z) (hstart : z.start ≤ sector) :
    Over zones sector i := by
  have hlt : i < zones.size := by
    obtain ⟨hlt, -⟩ := Array.getElem?_eq_some_iff.mp hi
    omega
  have hbefore : zones[i]? = some zones[i] := Array.getElem?_eq_getElem hlt
  refine ⟨zones[i], hbefore, ?_⟩
  have hnext := ascending.next i _ z hbefore hi
  exact Nat.le_trans hnext hstart

/-- Before a zone that is over, every zone is over. -/
theorem over_of_le (hij : i ≤ j) (h : Over zones sector j) : Over zones sector i := by
  induction hij with
  | refl => exact h
  | @step m hm ih =>
    obtain ⟨z, hz, hstop⟩ := h
    exact ih (ascending.over_of_next hz (Nat.le_trans (Nat.le_add_right _ _) hstop))

/-- Before a zone that has begun, no zone holds the sector. -/
theorem le_of_holds {w : Zone} (hi : zones[i]? = some z) (hj : zones[j]? = some w)
    (hz : z.Holds sector) (hw : w.start ≤ sector) : j ≤ i := by
  refine Nat.not_lt.mp fun hlt => ?_
  obtain ⟨m, rfl⟩ : ∃ m, j = m + 1 := ⟨j - 1, by omega⟩
  obtain ⟨v, hv, hstop⟩ :=
    ascending.over_of_le (show i ≤ m by omega) (ascending.over_of_next hj hw)
  obtain rfl : z = v := Option.some.inj (hi.symm.trans hv)
  exact Nat.not_le.mpr hz.2 hstop

/-- No sector is in two zones. -/
theorem holds_unique {w : Zone} (hi : zones[i]? = some z) (hj : zones[j]? = some w)
    (hz : z.Holds sector) (hw : w.Holds sector) : i = j :=
  Nat.le_antisymm (ascending.le_of_holds hj hi hw hz.1) (ascending.le_of_holds hi hj hz hw.1)

end Ascending

section

variable (fits : ∀ (i : Nat) (z : Zone), zones[i]? = some z → z.start + z.length < Word.limit)
include fits

theorem isOver_eq (sector i : Nat) :
    isOver zones sector i = .ok (decide (Over zones sector i)) := by
  unfold isOver
  split
  · rename_i hi
    simp [Over, hi]
  · rename_i z hi
    rw [Zone.stop?, Word.add?_of_lt (fits i z hi)]
    simp [Over, hi, Zone.stop]

/-- The search, in terms of what is over. -/
theorem bisect_eq (sector base size : Nat) :
    bisect zones sector base size =
      if size ≤ 1 then .ok (if Over zones sector base then base + 1 else base)
      else if Over zones sector (base + size / 2) then
        bisect zones sector (base + size / 2) (size - size / 2)
      else bisect zones sector base (size - size / 2) := by
  rw [bisect]
  simp only [isOver_eq fits, bind, Except.bind, pure, Except.pure, decide_eq_true_eq]

/-- The search comes to an end, in whatever order the zones are. -/
theorem exists_bisect_ok (sector base size : Nat) :
    ∃ n, bisect zones sector base size = .ok n := by
  induction size using Nat.strongRecOn generalizing base with
  | ind size ih =>
    rw [bisect_eq fits]
    split
    · exact ⟨_, rfl⟩
    · split <;> exact ih (size - size / 2) (by omega) _

/-- Every block can be looked up among zones that end at words. -/
theorem exists_zoneNumber (block : Nat) : ∃ found, zoneNumber? zones block = .ok found := by
  obtain ⟨n, hn⟩ := exists_bisect_ok fits (blocksToSectors block) 0 zones.size
  rw [zoneNumber?, zoneIndex?, hn]
  cases hz : zones[n]? <;> exact ⟨_, by simp only [bind, Except.bind, hz]; rfl⟩

/-- **The search counts the zones that are over.** Below the searched range all are over, and from
its end on none is. Halving keeps both. -/
theorem exists_bisect {base size : Nat}
    (sorted : ∀ i j, i ≤ j → Over zones sector j → Over zones sector i)
    (hlow : ∀ i < base, Over zones sector i)
    (hhigh : ∀ i, base + size ≤ i → ¬Over zones sector i) :
    ∃ n, bisect zones sector base size = .ok n ∧ ∀ i, i < n ↔ Over zones sector i := by
  have hover {k : Nat} (hk : Over zones sector k) : ∀ i < k + 1, Over zones sector i :=
    fun i hi => sorted i k (by omega) hk
  have hrest {k : Nat} (hk : ¬Over zones sector k) : ∀ i, k ≤ i → ¬Over zones sector i :=
    fun i hi h => hk (sorted k i hi h)
  induction size using Nat.strongRecOn generalizing base with
  | ind size ih =>
    rw [bisect_eq fits]
    split
    · refine ⟨_, rfl, fun i => ?_⟩
      split
      · rename_i hsize hbase
        refine ⟨hover hbase i, fun h => Nat.lt_of_not_le fun hle => ?_⟩
        exact hhigh i (by omega) h
      · rename_i hsize hbase
        exact ⟨hlow i, fun h => Nat.lt_of_not_le fun hle => hrest hbase i hle h⟩
    · split
      · rename_i hsize hhalf
        exact ih (size - size / 2) (by omega) (fun i hi => hover hhalf i (by omega))
          fun i hi => hhigh i (by omega)
      · rename_i hsize hhalf
        exact ih (size - size / 2) (by omega) hlow fun i hi => hrest hhalf i (by omega)

end

/-- **What the look-up finds.** In ascending order it is the zone that holds the first sector of the
block, if there is one. -/
theorem exists_zoneIndex (ascending : Ascending zones) (hblock : block * 8 < Word.limit) :
    ∃ found, zoneIndex? zones block = .ok found ∧
      ∀ k, found = some k ↔ ∃ z, zones[k]? = some z ∧ z.Holds (block * 8) := by
  obtain ⟨n, hn, hcount⟩ :
      ∃ n, bisect zones (block * 8) 0 zones.size = .ok n ∧
        ∀ i, i < n ↔ Over zones (block * 8) i := by
    refine exists_bisect ascending.stop_lt (fun i j => ascending.over_of_le) (by simp) ?_
    rintro i hi ⟨z, hz, -⟩
    rw [Array.getElem?_eq_none (by omega)] at hz
    cases hz
  have hover {i : Nat} {z : Zone} (hz : zones[i]? = some z) :
      Over zones (block * 8) i ↔ z.start + z.length ≤ block * 8 := by
    simp [Over, hz, Zone.stop]
  refine ⟨(zones[n]?.filter (·.start ≤ block * 8)).map fun _ => n, ?_, fun k => ?_⟩
  · rw [zoneIndex?, blocksToSectors_of_lt hblock, hn]
    cases hz : zones[n]? with
    | none => simp [bind, Except.bind, hz, pure, Except.pure]
    | some z => by_cases hstart : z.start ≤ block * 8 <;>
        simp [bind, Except.bind, hz, hstart, pure, Except.pure, Option.filter]
  · constructor
    · intro h
      obtain ⟨z, hz, rfl⟩ := Option.map_eq_some_iff.mp h
      obtain ⟨hz, hstart⟩ := Option.filter_eq_some_iff.mp hz
      have hnot := mt (hcount _).mpr (Nat.lt_irrefl _)
      rw [hover hz] at hnot
      exact ⟨z, hz, by simpa using hstart, by omega⟩
    · rintro ⟨z, hz, hstart, hstop⟩
      have hle : ¬k < n := by
        rw [hcount, hover hz]
        omega
      have hge : ¬n < k := by
        intro hlt
        obtain ⟨j, rfl⟩ : ∃ j, k = j + 1 := ⟨k - 1, by omega⟩
        have := (hcount j).mpr (ascending.over_of_next hz hstart)
        omega
      obtain rfl : n = k := by omega
      simp [hz, hstart]

/-! ## Against a search from the first zone on -/

/-- The index of the first zone that holds a sector, by looking at one zone after the other. -/
def firstHolder? (zones : Array Zone) (sector : Nat) : Option Nat :=
  zones.findIdx? fun z => z.Holds sector

theorem firstHolder?_eq_some_iff (ascending : Ascending zones) :
    firstHolder? zones sector = some k ↔ ∃ z, zones[k]? = some z ∧ z.Holds sector := by
  simp only [firstHolder?, Array.findIdx?_eq_some_iff_getElem, decide_eq_true_eq,
    Array.getElem?_eq_some_iff]
  constructor
  · rintro ⟨hk, hholds, -⟩
    exact ⟨_, ⟨hk, rfl⟩, hholds⟩
  · rintro ⟨z, ⟨hk, rfl⟩, hholds⟩
    refine ⟨hk, hholds, fun j hj hearlier => ?_⟩
    have hjk := ascending.holds_unique (Array.getElem?_eq_getElem (Nat.lt_trans hj hk))
      (Array.getElem?_eq_getElem hk) hearlier hholds
    omega

theorem zoneIndex?_eq_firstHolder? (ascending : Ascending zones)
    (hblock : block * 8 < Word.limit) :
    zoneIndex? zones block = .ok (firstHolder? zones (block * 8)) := by
  obtain ⟨found, hfound, hiff⟩ := exists_zoneIndex ascending hblock
  have hsame : found = firstHolder? zones (block * 8) := by
    refine Option.ext fun i => ?_
    rw [hiff, firstHolder?_eq_some_iff ascending]
  rw [hfound, hsame]

theorem zoneNumber?_of_zoneIndex? {found : Option Nat} (h : zoneIndex? zones block = .ok found) :
    zoneNumber? zones block = .ok (found.map .ofNat) := by
  rw [zoneNumber?, h]
  rfl

/-- A zone of a list that is not too long has a number of its own: its index. -/
theorem toNat_ofNat_index (hsize : zones.size ≤ 4294967296) (hz : zones[i]? = some z) :
    (UInt32.ofNat i).toNat = i := by
  obtain ⟨hi, -⟩ := Array.getElem?_eq_some_iff.mp hz
  rw [UInt32.toNat_ofNat']
  omega

theorem zoneNumber?_eq_some_iff (hsize : zones.size ≤ 4294967296)
    (ascending : Ascending zones) (hblock : block * 8 < Word.limit) {n : UInt32} :
    zoneNumber? zones block = .ok (some n) ↔
      ∃ z, zones[n.toNat]? = some z ∧ z.Holds (block * 8) := by
  rw [zoneNumber?_of_zoneIndex? (zoneIndex?_eq_firstHolder? ascending hblock), Except.ok.injEq,
    Option.map_eq_some_iff]
  simp only [firstHolder?_eq_some_iff ascending]
  constructor
  · rintro ⟨i, ⟨z, hz, hholds⟩, rfl⟩
    exact ⟨z, (toNat_ofNat_index hsize hz).symm ▸ hz, hholds⟩
  · rintro ⟨z, hz, hholds⟩
    exact ⟨n.toNat, ⟨z, hz, hholds⟩, UInt32.ofNat_toNat⟩

/-- **The search by halving is a search from the first zone on.** The zones are in ascending order,
with gaps or without. Then the look-up gives the number of the one zone that holds the first sector
of the block, and none if no zone holds it. -/
theorem zoneNumber?_eq_firstHolder? (ascending : Ascending zones)
    (hsize : zones.size ≤ 4294967296) (hblock : block * 8 < Word.limit) :
    zoneNumber? zones block = .ok ((firstHolder? zones (block * 8)).map .ofNat) ∧
      (∀ n, zoneNumber? zones block = .ok (some n) ↔
        (∃ z, zones[n.toNat]? = some z ∧ z.Holds (block * 8)) ∧
          ∀ i z, zones[i]? = some z → z.Holds (block * 8) → i = n.toNat) ∧
      (zoneNumber? zones block = .ok none ↔ ∀ z ∈ zones, ¬z.Holds (block * 8)) := by
  have hsame := zoneNumber?_of_zoneIndex? (zoneIndex?_eq_firstHolder? ascending hblock)
  refine ⟨hsame, fun n => ?_, ?_⟩
  · rw [zoneNumber?_eq_some_iff hsize ascending hblock]
    constructor
    · rintro ⟨z, hz, hholds⟩
      exact ⟨⟨z, hz, hholds⟩, fun i w hw hother => ascending.holds_unique hw hz hother hholds⟩
    · rintro ⟨hholder, -⟩
      exact hholder
  · rw [hsame, Except.ok.injEq, Option.map_eq_none_iff, firstHolder?, Array.findIdx?_eq_none_iff]
    simp

/-- Two zones with a gap between them. The second one ends within a block. -/
def gapped : Array Zone := #[.emulated 0 8, .emulated 24 9]

theorem ascending_gapped : Ascending gapped where
  stop_lt := by
    intro i z hz
    match i with
    | 0 | 1 =>
      obtain rfl := Option.some.inj hz
      decide
    | i + 2 => cases hz
  next := by
    intro i z after hz hafter
    match i with
    | 0 =>
      obtain rfl := Option.some.inj hz
      obtain rfl := Option.some.inj hafter
      decide
    | i + 1 => cases hafter

/-- The block begins in the last sector of the second zone. -/
theorem zoneNumber?_eq_firstHolder?_gapped :
    Ascending gapped ∧ gapped.size ≤ 4294967296 ∧ 4 * 8 < Word.limit ∧
      zoneNumber? gapped 4 = .ok ((firstHolder? gapped (4 * 8)).map .ofNat) ∧
        (∀ n, zoneNumber? gapped 4 = .ok (some n) ↔
          (∃ z, gapped[n.toNat]? = some z ∧ z.Holds (4 * 8)) ∧
            ∀ i z, gapped[i]? = some z → z.Holds (4 * 8) → i = n.toNat) ∧
        (zoneNumber? gapped 4 = .ok none ↔ ∀ z ∈ gapped, ¬z.Holds (4 * 8)) :=
  ⟨ascending_gapped, by decide, by decide,
    zoneNumber?_eq_firstHolder? ascending_gapped (by decide) (by decide)⟩

end Layout

end ZonedSet
