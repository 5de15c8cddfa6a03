/-
# Theory.Nearest — the two smallest keys of a scan

A scan that keeps its best and its second best candidate, comparing with `<`, prefers the earlier of two
candidates with one key.  `Precedes d i j` is that preference, a strict order on positions; `scan_spec`
says that the scan ends with the first two positions in it.  `Valley` is for keys that fall and then
rise, as distances to increasing points do: then the first two positions are next to each other.
-/
import Mathlib.Data.Nat.Init
import Mathlib.Order.Lattice
import Mathlib.Order.Nat

namespace TizerVision.Theory

set_option autoImplicit false

variable {R : Type*} [LinearOrder R]

/-- The candidates kept: a position and its key, `-1` for none. -/
structure Nearest (R : Type*) where
  first : Int
  firstKey : R
  second : Int
  secondKey : R
deriving DecidableEq, Repr

/-- One turn of the scan. -/
def Nearest.turn (kept : Nearest R) (i : Int) (key : R) : Nearest R :=
  if key < kept.firstKey then ⟨i, key, kept.first, kept.firstKey⟩
  else if key < kept.secondKey then ⟨kept.first, kept.firstKey, i, key⟩
  else kept

/-- The scan over the keys of the positions below `n`, from a bound that is above all of them. -/
def Nearest.scan (bound : R) (d : Nat → R) : Nat → Nearest R
  | 0 => ⟨-1, bound, -1, bound⟩
  | n + 1 => (scan bound d n).turn n (d n)

/-- Position `i` is preferred to position `j`. -/
def Precedes (d : Nat → R) (i j : Nat) : Prop := d i < d j ∨ d i = d j ∧ i < j

theorem Precedes.le {d : Nat → R} {i j : Nat} (before : Precedes d i j) : d i ≤ d j := by
  rcases before with less | ⟨same, -⟩
  · exact less.le
  · exact same.le

/-- An earlier position is preferred unless its key is greater. -/
theorem precedes_of_le {d : Nat → R} {i j : Nat} (keys : d i ≤ d j) (earlier : i < j) :
    Precedes d i j := by
  rcases keys.lt_or_eq with less | same
  · exact .inl less
  · exact .inr ⟨same, earlier⟩

/-- `a` and `b` are the first two of the positions below `n`. -/
structure FirstTwo (d : Nat → R) (n a b : Nat) : Prop where
  first_lt : a < n
  second_lt : b < n
  ne : a ≠ b
  first : ∀ k < n, k ≠ a → Precedes d a k
  second : ∀ k < n, k ≠ a → k ≠ b → Precedes d b k

/-- Where two positions of a range have smaller keys than all positions outside it, the first two are in
the range. -/
theorem FirstTwo.among {d : Nat → R} {n low high first second a b : Nat} (two : FirstTwo d n first second)
    (other : a ≠ b) (below : a < n) (below' : b < n)
    (smaller : ∀ k < n, k < low ∨ high < k → d a < d k ∧ d b < d k) :
    (low ≤ first ∧ first ≤ high) ∧ low ≤ second ∧ second ≤ high := by
  have inside {k : Nat} (below : k < n) (notSmaller : d k ≤ d a ∨ d k ≤ d b) : low ≤ k ∧ k ≤ high := by
    by_contra outside
    obtain ⟨less, less'⟩ := smaller k below (by omega)
    exact notSmaller.elim (not_le.2 less) (not_le.2 less')
  have other' : a ≠ first ∨ b ≠ first := by omega
  refine ⟨inside two.first_lt ?_, inside two.second_lt ?_⟩
  · exact other'.imp (fun ne => (two.first a below ne).le) (fun ne => (two.first b below' ne).le)
  · have least {k : Nat} (below : k < n) (ne : k ≠ first) : d second ≤ d k := by
      by_cases same : k = second
      · exact same ▸ le_rfl
      · exact (two.second k below ne same).le
    exact other'.imp (least below) (least below')

/-- One more position. -/
theorem FirstTwo.turn {d : Nat → R} {n a b : Nat} (two : FirstTwo d n a b) :
    ∃ a' b', FirstTwo d (n + 1) a' b' ∧
      Nearest.turn ⟨a, d a, b, d b⟩ n (d n) = ⟨a', d a', b', d b'⟩ := by
  have between : d a ≤ d b := (two.first b two.second_lt two.ne.symm).le
  have newest : ∀ k < n + 1, k ≠ n → k < n := fun k below other => by omega
  unfold Nearest.turn
  by_cases less : d n < d a
  · refine ⟨n, a, ⟨by omega, Nat.lt_succ_of_lt two.first_lt, two.first_lt.ne', ?_, ?_⟩, if_pos less⟩
    · intro k below other
      by_cases same : k = a
      · exact .inl (same ▸ less)
      · exact .inl (less.trans_le (two.first k (newest k below other) same).le)
    · intro k below other notFirst
      exact two.first k (newest k below other) notFirst
  · have kept : d a ≤ d n := not_lt.1 less
    by_cases between_two : d n < d b
    · refine ⟨a, n, ⟨Nat.lt_succ_of_lt two.first_lt, by omega, two.first_lt.ne, ?_, ?_⟩, ?_⟩
      · intro k below other
        by_cases same : k = n
        · exact same ▸ precedes_of_le kept two.first_lt
        · exact two.first k (newest k below same) other
      · intro k below notFirst other
        by_cases same : k = b
        · exact .inl (same ▸ between_two)
        · exact .inl (between_two.trans_le (two.second k (newest k below other) notFirst same).le)
      · rw [if_neg less, if_pos between_two]
    · refine ⟨a, b, ⟨Nat.lt_succ_of_lt two.first_lt, Nat.lt_succ_of_lt two.second_lt, two.ne,
        ?_, ?_⟩, ?_⟩
      · intro k below other
        by_cases same : k = n
        · exact same ▸ precedes_of_le kept two.first_lt
        · exact two.first k (newest k below same) other
      · intro k below notFirst other
        by_cases same : k = n
        · exact same ▸ precedes_of_le (not_lt.1 between_two) two.second_lt
        · exact two.second k (newest k below same) notFirst other
      · rw [if_neg less, if_neg between_two]

/-- The first two turns. -/
theorem scan_two {bound : R} {d : Nat → R} (low : d 0 < bound) (low' : d 1 < bound) :
    ∃ a b, FirstTwo d 2 a b ∧ Nearest.scan bound d 2 = ⟨a, d a, b, d b⟩ := by
  have one : Nearest.scan bound d 1 = ⟨(0 : Nat), d 0, -1, bound⟩ := if_pos low
  have two : Nearest.scan bound d 2 = Nearest.turn ⟨(0 : Nat), d 0, -1, bound⟩ (1 : Nat) (d 1) := by
    rw [← one]
    rfl
  rw [two, Nearest.turn]
  by_cases less : d 1 < d 0
  · refine ⟨1, 0, ⟨by omega, by omega, by omega, ?_, ?_⟩, if_pos less⟩
    · intro k below other
      obtain rfl : k = 0 := by omega
      exact .inl less
    · intro k below notFirst notSecond
      omega
  · refine ⟨0, 1, ⟨by omega, by omega, by omega, ?_, ?_⟩, ?_⟩
    · intro k below other
      obtain rfl : k = 1 := by omega
      exact precedes_of_le (not_lt.1 less) Nat.zero_lt_one
    · intro k below notFirst notSecond
      omega
    · rw [if_neg less, if_pos low']

/-- **The scan ends with the first two positions**, if there are two and the bound is above all keys. -/
theorem scan_spec {bound : R} {d : Nat → R} {n : Nat} (enough : 2 ≤ n)
    (low : ∀ k < n, d k < bound) :
    ∃ a b, FirstTwo d n a b ∧ Nearest.scan bound d n = ⟨a, d a, b, d b⟩ := by
  induction n, enough using Nat.le_induction with
  | base => exact scan_two (low 0 (by omega)) (low 1 (by omega))
  | succ n _ ih =>
      obtain ⟨a, b, two, scanned⟩ := ih fun k below => low k (Nat.lt_succ_of_lt below)
      obtain ⟨a', b', two', turned⟩ := two.turn
      exact ⟨a', b', two', by rw [Nearest.scan, scanned, turned]⟩

/-! ## Keys that fall and then rise -/

/-- The keys of the positions below `n` fall up to `i` and rise from `i + 1` on. -/
structure Valley (d : Nat → R) (n i : Nat) : Prop where
  inside : i + 1 < n
  falls : ∀ j k, j < k → k ≤ i → d k < d j
  rises : ∀ j k, i + 1 ≤ j → j < k → k < n → d j < d k

namespace Valley

variable {d : Nat → R} {n i a b : Nat}

/-- The first position is one of the two at the bottom. -/
theorem first_eq (valley : Valley d n i) (two : FirstTwo d n a b) : a = i ∨ a = i + 1 := by
  have inside := valley.inside
  rcases Nat.lt_trichotomy a i with before | rfl | after
  · exact absurd (valley.falls a i before le_rfl)
      (not_lt.2 (two.first i (by omega) before.ne').le)
  · exact .inl rfl
  · by_cases same : a = i + 1
    · exact .inr same
    · have less := valley.rises (i + 1) a le_rfl (by omega) two.first_lt
      exact absurd less (not_lt.2 (two.first (i + 1) inside (Ne.symm same)).le)

/-- The second is at the bottom too or next to the first, on its other side. -/
theorem second_eq (valley : Valley d n i) (two : FirstTwo d n a b) :
    a = i ∧ (b = i + 1 ∨ b + 1 = i) ∨ a = i + 1 ∧ (b = i ∨ b = i + 2) := by
  have inside := valley.inside
  have ne := two.ne
  rcases valley.first_eq two with rfl | rfl
  · refine .inl ⟨rfl, ?_⟩
    rcases Nat.lt_trichotomy (b + 1) a with before | same | after
    · exact absurd (valley.falls b (a - 1) (by omega) (by omega))
        (not_lt.2 (two.second (a - 1) (by omega) (by omega) (by omega)).le)
    · exact .inr same
    · by_cases same : b = a + 1
      · exact .inl same
      · exact absurd (valley.rises (a + 1) b le_rfl (by omega) two.second_lt)
          (not_lt.2 (two.second (a + 1) inside (by omega) (Ne.symm same)).le)
  · refine .inr ⟨rfl, ?_⟩
    rcases Nat.lt_trichotomy b i with before | same | after
    · exact absurd (valley.falls b i before le_rfl)
        (not_lt.2 (two.second i (by omega) (by omega) before.ne').le)
    · exact .inl same
    · by_cases same : b = i + 2
      · exact .inr same
      · have bound := two.second_lt
        exact absurd (valley.rises (i + 2) b (by omega) (by omega) bound)
          (not_lt.2 (two.second (i + 2) (by omega) (by omega) (Ne.symm same)).le)

/-- **The first two are the two at the bottom** exactly when no outer neighbour comes before the
farther of them. -/
theorem bottom_iff (valley : Valley d n i) (two : FirstTwo d n a b) :
    (a = i ∧ b = i + 1 ∨ a = i + 1 ∧ b = i) ↔
      (∀ j, j + 1 = i → d (i + 1) < d j) ∧ (i + 2 < n → d i ≤ d (i + 2)) := by
  have inside := valley.inside
  constructor
  · rintro (⟨rfl, rfl⟩ | ⟨rfl, rfl⟩)
    · refine ⟨fun j left => ?_, fun right => ?_⟩
      · rcases two.second j (by omega) (by omega) (by omega) with less | ⟨-, later⟩
        · exact less
        · omega
      · exact (two.first (a + 2) right (by omega)).le
    · refine ⟨fun j left => ?_, fun right => ?_⟩
      · exact ((two.first b (by omega) (by omega)).le).trans_lt
          (valley.falls j b (by omega) le_rfl)
      · exact (two.second (b + 2) right (by omega) (by omega)).le
  · rintro ⟨left, right⟩
    rcases valley.second_eq two with ⟨rfl, rfl | outer⟩ | ⟨rfl, rfl | rfl⟩
    · exact .inl ⟨rfl, rfl⟩
    · have less := left b outer
      exact absurd (two.second (a + 1) inside (by omega) (by omega)).le (not_le.2 less)
    · exact .inr ⟨rfl, rfl⟩
    · have bound := two.second_lt
      rcases two.second i (by omega) (by omega) (by omega) with less | ⟨-, later⟩
      · exact absurd (right bound) (not_le.2 less)
      · omega

end Valley

end TizerVision.Theory
