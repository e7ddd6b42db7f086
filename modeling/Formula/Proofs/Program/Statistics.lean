import Formula.Program.Statistics
import Mathlib.Algebra.BigOperators.Group.List.Lemmas
import Mathlib.Algebra.GroupWithZero.Nat
import Mathlib.Data.List.Dedup
import Mathlib.Data.List.Induction
import Mathlib.Data.String.Basic
import Mathlib.Tactic.Order

/-!
# Counting instructions

The statistics of a program are found by counting: a map from names to counts grows by one
occurrence after another, and its entries, which come in no particular order, are sorted. Sorted by
count and name, the entries have only one order (`IsTable.eq`), so the lines depend on the program
alone (`statistics_eq`).
-/

namespace Formula.Program

/-- The counts after one more occurrence of a name. -/
def countOne (counts : Std.HashMap String ℕ) (name : String) : Std.HashMap String ℕ :=
  counts.insert name (counts.getD name 0 + 1)

/-- The number of occurrences of each name. -/
def countAll (names : List String) : Std.HashMap String ℕ :=
  names.foldl countOne ∅

/-- Entries of names with their counts, in any order. -/
structure Tallies (names : List String) (entries : List (String × ℕ)) : Prop where
  nodup : (entries.map Prod.fst).Nodup
  mem_iff : ∀ name n, (name, n) ∈ entries ↔ 0 < n ∧ n = names.count name

/-- Each name with its count, the most frequent first; names with equal counts stand in order. -/
structure IsTable (names : List String) (table : List (String × ℕ)) : Prop
    extends Tallies names table where
  sorted : table.Pairwise fun a b => b.2 < a.2 ∨ b.2 = a.2 ∧ a.1 < b.1

section Counting

variable {names : List String} {counts : Std.HashMap String ℕ}

/-- A name that occurs once more is counted once more. -/
lemma getElem?_countOne (last name : String)
    (h : ∀ name, counts[name]? = if name ∈ names then some (names.count name) else none) :
    (countOne counts last)[name]? =
      if name ∈ names ++ [last] then some ((names ++ [last]).count name) else none := by
  have hlast : counts.getD last 0 = names.count last := by
    rw [Std.HashMap.getD_eq_getD_getElem?, h]
    split
    · rfl
    · next hnot => exact (List.count_eq_zero.2 hnot).symm
  rw [countOne, Std.HashMap.getElem?_insert, hlast, h]
  by_cases hname : last = name
  · simp [hname]
  · simp [hname, Ne.symm hname]

/-- Every name is counted as often as it occurs. -/
theorem getElem?_countAll (names : List String) (name : String) :
    (countAll names)[name]? = if name ∈ names then some (names.count name) else none := by
  induction names using List.reverseRecOn generalizing name with
  | nil => simp [countAll]
  | append_singleton names last ih =>
    rw [countAll, List.foldl_append]
    exact getElem?_countOne last name ih

/-- The entries of the map are the names with their counts. -/
lemma tallies_countAll (names : List String) : Tallies names (countAll names).toList where
  nodup := by
    rw [List.Nodup, List.pairwise_map]
    exact Std.HashMap.distinct_keys_toList.imp fun h => beq_eq_false_iff_ne.1 h
  mem_iff name n := by
    rw [Std.HashMap.mem_toList_iff_getElem?_eq_some, getElem?_countAll]
    split
    · next hmem =>
      have hpos := List.count_pos_iff.2 hmem
      rw [Option.some_inj]
      omega
    · next hmem =>
      have hzero := List.count_eq_zero.2 hmem
      simp only [reduceCtorEq, false_iff]
      omega

end Counting

namespace Tallies

variable {names : List String} {entries others : List (String × ℕ)}

/-- The order of entries does not matter. -/
lemma of_perm (h : Tallies names entries) (hperm : others.Perm entries) : Tallies names others where
  nodup := (hperm.map Prod.fst).nodup_iff.2 h.nodup
  mem_iff name n := by rw [hperm.mem_iff, h.mem_iff]

/-- Names with their counts differ only in their order. -/
lemma perm (h : Tallies names entries) (hothers : Tallies names others) : entries.Perm others := by
  refine (List.perm_ext_iff_of_nodup h.nodup.of_map hothers.nodup.of_map).2 ?_
  rintro ⟨name, n⟩
  rw [h.mem_iff, hothers.mem_iff]

end Tallies

/-- No name is left twice. -/
lemma nodup_eraseDups (names : List String) : names.eraseDups.Nodup := by
  induction hlength : names.length using Nat.strong_induction_on generalizing names with
  | h length ih =>
    cases names with
    | nil => exact List.nodup_nil
    | cons name names =>
      have hlt : (names.filter fun other => !other == name).length < length :=
        hlength ▸ Nat.lt_succ_of_le (List.length_filter_le _ _)
      rw [List.eraseDups_cons, List.nodup_cons, List.mem_eraseDups]
      exact ⟨by simp, ih _ hlt _ rfl⟩

/-- Each name with the number of its occurrences. -/
lemma tallies_eraseDups (names : List String) :
    Tallies names (names.eraseDups.map fun name => (name, names.count name)) where
  nodup := by
    rw [List.map_map]
    exact (nodup_eraseDups names).map Function.injective_id
  mem_iff name n := by
    simp only [List.mem_map, List.mem_eraseDups, Prod.mk.injEq]
    constructor
    · rintro ⟨name, hmem, rfl, rfl⟩
      exact ⟨List.count_pos_iff.2 hmem, rfl⟩
    · rintro ⟨hpos, rfl⟩
      exact ⟨name, List.count_pos_iff.1 hpos, rfl, rfl⟩

/-- Every instruction is counted once. -/
lemma Tallies.sum_eq {names : List String} {entries : List (String × ℕ)}
    (h : Tallies names entries) : (entries.map Prod.snd).sum = names.length := by
  have hnames : names.eraseDups.Perm names.dedup :=
    (List.perm_ext_iff_of_nodup (nodup_eraseDups names) names.nodup_dedup).2 fun name => by
      rw [List.mem_eraseDups, List.mem_dedup]
  have hperm := (h.perm (tallies_eraseDups names)).map Prod.snd
  rw [List.map_map] at hperm
  rw [hperm.sum_eq, ← List.sum_map_count_dedup_eq_length names]
  exact (hnames.map _).sum_eq

section Order

/-- The order of entries: by count, then by name. -/
lemma frequencyBefore_iff (a b : String × ℕ) :
    frequencyBefore a b = true ↔ b.2 < a.2 ∨ b.2 = a.2 ∧ a.1 ≤ b.1 := by
  rw [frequencyBefore, Bool.or_eq_true, Bool.and_eq_true, decide_eq_true_iff, decide_eq_true_iff,
    beq_iff_eq, eq_comm]

/-- The order of entries is transitive. -/
lemma frequencyBefore_trans (a b c : String × ℕ) (hab : frequencyBefore a b = true)
    (hbc : frequencyBefore b c = true) : frequencyBefore a c = true := by
  rw [frequencyBefore_iff] at hab hbc ⊢
  rcases hab with hab | ⟨hab, hname⟩
  · exact .inl (by omega)
  · rcases hbc with hbc | ⟨hbc, hname'⟩
    · exact .inl (by omega)
    · exact .inr ⟨by omega, String.le_trans hname hname'⟩

/-- Any two entries are ordered. -/
lemma frequencyBefore_total (a b : String × ℕ) :
    (frequencyBefore a b || frequencyBefore b a) = true := by
  rw [Bool.or_eq_true, frequencyBefore_iff, frequencyBefore_iff]
  rcases Nat.lt_trichotomy a.2 b.2 with h | h | h
  · exact .inr (.inl h)
  · rcases String.le_total a.1 b.1 with hname | hname
    · exact .inl (.inr ⟨h.symm, hname⟩)
    · exact .inr (.inr ⟨h, hname⟩)
  · exact .inl (.inl h)

/-- Entries of different names are in a strict order. -/
lemma frequencyBefore_of_ne {a b : String × ℕ} (h : frequencyBefore a b = true) (hne : a.1 ≠ b.1) :
    b.2 < a.2 ∨ b.2 = a.2 ∧ a.1 < b.1 := by
  rw [frequencyBefore_iff] at h
  exact h.imp_right fun ⟨hcount, hle⟩ => ⟨hcount, lt_of_le_of_ne hle hne⟩

end Order

variable {names : List String} {entries table other : List (String × ℕ)}

/-- Sorted entries are the table. -/
lemma Tallies.isTable (h : Tallies names entries) :
    IsTable names (entries.mergeSort frequencyBefore) where
  toTallies := h.of_perm (List.mergeSort_perm entries frequencyBefore)
  sorted := by
    have hsorted :=
      List.pairwise_mergeSort frequencyBefore_trans frequencyBefore_total entries
    have hnodup := (h.of_perm (List.mergeSort_perm entries frequencyBefore)).nodup
    rw [List.Nodup, List.pairwise_map] at hnodup
    exact hsorted.imp₂ (fun _ _ => frequencyBefore_of_ne) hnodup

/-- There is only one table. -/
theorem IsTable.eq (h : IsTable names table) (hother : IsTable names other) : table = other := by
  refine List.Perm.eq_of_pairwise ?_ h.sorted hother.sorted (h.perm hother.toTallies)
  intro a b _ _ hab hba
  rcases hab with hab | ⟨hab, hname⟩
  · omega
  · rcases hba with hba | ⟨-, hname'⟩
    · omega
    · exact absurd hname' (lt_asymm hname)

/-- Entries that are sorted make up the table that the statistics are taken from. -/
lemma frequencies_eq (h : Tallies names entries) :
    frequencies names = entries.mergeSort frequencyBefore :=
  (tallies_eraseDups names).isTable.eq h.isTable

/-- In whatever order the counted names come out of the map, sorted they are the table of names with
their counts, which add up to the number of instructions. The statistics show that number and the
first lines of the table. -/
theorem statistics_eq (p : Program) (hperm : entries.Perm (countAll p.instructionNames).toList) :
    IsTable p.instructionNames (entries.mergeSort frequencyBefore) ∧
    ((entries.mergeSort frequencyBefore).map Prod.snd).sum = p.walk.instructions.length ∧
    p.statistics =
      [s!"Words:         {p.code.size}",
       s!"Constants:     {p.constants.size}",
       s!"Instructions:  {p.walk.instructions.length}",
       "Op frequency:"]
        ++ ((entries.mergeSort frequencyBefore).take 10).map fun (name, count) =>
          frequencyLine p.walk.instructions.length name count := by
  have htallies : Tallies p.instructionNames entries :=
    (tallies_countAll p.instructionNames).of_perm hperm
  have hlength : p.instructionNames.length = p.walk.instructions.length := List.length_map _
  refine ⟨htallies.isTable, ?_, ?_⟩
  · rw [htallies.isTable.sum_eq, hlength]
  · rw [statistics, frequencies_eq htallies, hlength]

/-- The entries for two negations, in the opposite order of the map. -/
theorem statistics_eq_reverse :
    let p : Program := ⟨#[0, Opcode.word (.unary .negate), Opcode.word (.unary .negate),
      Opcode.endCode.word], #[]⟩
    let entries := (countAll p.instructionNames).toList.reverse
    p.walk.instructions.length = 3 ∧ entries.Perm (countAll p.instructionNames).toList ∧
      IsTable p.instructionNames (entries.mergeSort frequencyBefore) := by
  intro p entries
  have hperm : entries.Perm (countAll p.instructionNames).toList := List.reverse_perm _
  exact ⟨by decide +kernel, hperm, (statistics_eq p hperm).1⟩

end Formula.Program
