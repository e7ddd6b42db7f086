import Formula.Parameters
import Formula.Proofs.Lexeme.Kind
import Mathlib.Data.List.Basic
import Mathlib.Data.List.Induction

/-!
# The format of a parameter clause

A clause declares parameters if and only if its lexemes are names with commas between them, where a
name is an identifier that is no name of a constant. In any other clause, the first lexeme that breaks
this form decides the failure (`ofClause_format`). Both are said of the lexemes alone; that nothing is
left out is `interspersed_or_breaks`.
-/

namespace Formula

/-- The reserved names are those of the two constants. -/
lemma Catalogue.isReserved_iff {name : String} :
    isReserved name = true ↔ name = "ce" ∨ name = "cpi" := by
  rw [isReserved, constant?, constants, List.lookup_cons, List.lookup_cons, List.lookup_nil]
  split
  · next h => simp [eq_of_beq h]
  next h =>
  split
  · next h' => simp [eq_of_beq h']
  · next h' => simp_all

namespace Parameters

/-- A lexeme that can be declared. -/
def IsName (l : String) : Prop :=
  (Token.classify l).kind = .identifier ∧ l ≠ "ce" ∧ l ≠ "cpi"

/-- Names with a comma behind each. -/
def listed (names : List String) : List String :=
  names.flatMap ([·, ","])

/-- The lexemes before a place of a list where a name is expected. -/
def WantsName (seen : List String) : Prop :=
  ∃ names, (∀ n ∈ names, IsName n) ∧ seen = listed names

/-- The lexemes before a place of a list that comes directly after a name. -/
def EndsInName (seen : List String) : Prop :=
  ∃ names n, (∀ n ∈ names, IsName n) ∧ IsName n ∧ seen = listed names ++ [n]

/-- The lexemes of a clause up to a place are those of a list, and there a lexeme breaks the list, or
a name is missing at the end. The failure is the one that is reported. -/
inductive Breaks : List String → Diagnostic → Prop where
  | foreign {seen l rest} :
    WantsName seen ∨ EndsInName seen →
    (Token.classify l).kind ∈ [.number, .hexNumber, .unknown] →
    Breaks (seen ++ l :: rest) (.after .missingParam (String.join (seen ++ [l])))
  | operator {seen l rest} :
    WantsName seen ∨ EndsInName seen →
    (Token.classify l).kind = .delimiter → l ≠ "," →
    Breaks (seen ++ l :: rest) (.after .missingComma (String.join (seen ++ [l])))
  | adjacent {seen l rest} :
    EndsInName seen →
    (Token.classify l).kind = .identifier →
    Breaks (seen ++ l :: rest) (.after .missingComma (String.join (seen ++ [l])))
  | comma {seen rest} :
    WantsName seen →
    Breaks (seen ++ "," :: rest) (.after .missingParam (String.join (seen ++ [","])))
  | reserved {seen l rest} :
    WantsName seen →
    l = "ce" ∨ l = "cpi" →
    Breaks (seen ++ l :: rest) (.reserved l)
  | trailing {seen} :
    WantsName seen → seen ≠ [] →
    Breaks seen (.after .missingParam (String.join seen))

variable {ps : Parameters} {seen names ls : List String} {l n : String} {atStart : Bool}
  {d : Diagnostic}

/-- Names with commas between them are names with a comma behind each but the last. -/
lemma intersperse_concat (names : List String) (n : String) :
    (names ++ [n]).intersperse "," = listed names ++ [n] := by
  induction names with
  | nil => rfl
  | cons m names ih =>
    cases names with
    | nil => rfl
    | cons m' names =>
      rw [List.cons_append, List.cons_append, List.intersperse_cons_cons, ← List.cons_append, ih]
      rfl

/-- Names and one more name. -/
lemma listed_concat (names : List String) (n : String) :
    listed (names ++ [n]) = listed names ++ [n, ","] := by
  simp [listed]

/-- The text of the token of a lexeme is the lexeme. -/
lemma text_classify (l : String) : (Token.classify l).text = l :=
  rfl

/-- A name is read where one is expected. -/
lemma namesFrom_name (hn : IsName n) (seen : List String) (atStart : Bool) (ls : List String) :
    namesFrom seen atStart ((n :: ls).map .classify) =
      (n :: ·) <$> namesAfter (seen ++ [n]) (ls.map .classify) := by
  have hreserved : Catalogue.isReserved n = false := by
    rw [Bool.eq_false_iff, ne_eq, Catalogue.isReserved_iff]
    exact not_or.2 hn.2
  simp only [List.map_cons, namesFrom, hn.1, text_classify, hreserved, Bool.false_eq_true, if_false]

/-- After a name and a comma, another name is expected. -/
lemma namesAfter_comma (seen ls : List String) :
    namesAfter seen (("," :: ls).map .classify) =
      namesFrom (seen ++ [","]) false (ls.map .classify) := by
  have hkind : (Token.classify ",").kind = .delimiter := by decide
  simp only [List.map_cons, namesAfter, hkind, text_classify, if_true]

/-- Names with a comma behind each are read, and one more name is expected. -/
lemma namesFrom_listed (hnames : ∀ n ∈ names, IsName n) (seen : List String) (atStart : Bool)
    (ls : List String) :
    namesFrom seen atStart ((listed names ++ ls).map .classify) =
      (names ++ ·) <$>
        namesFrom (seen ++ listed names) (atStart && names.isEmpty) (ls.map .classify) := by
  induction names generalizing seen atStart with
  | nil => simp [listed]
  | cons n names ih =>
    obtain ⟨hn, hnames⟩ := List.forall_mem_cons.1 hnames
    have hlisted : listed (n :: names) = n :: "," :: listed names := rfl
    rw [hlisted, List.cons_append, List.cons_append, namesFrom_name hn, namesAfter_comma, ih hnames]
    simp [Functor.map_map]

/-- Names with commas between them are read. -/
lemma namesFrom_intersperse (hnames : ∀ n ∈ names, IsName n) :
    namesFrom [] true ((names.intersperse ",").map .classify) = .ok names := by
  rcases List.eq_nil_or_concat' names with rfl | ⟨names, n, rfl⟩
  · rfl
  · obtain ⟨hnames, hn⟩ := List.forall_mem_append.1 hnames
    rw [intersperse_concat, namesFrom_listed hnames, namesFrom_name (hn n (by simp))]
    rfl

/-- A list that is broken is not read, and the failure is the one of the lexeme that breaks it. -/
lemma namesFrom_breaks (h : Breaks ls d) : namesFrom [] true (ls.map .classify) = .error d := by
  -- The lexemes before the place are read first.
  have hwants {seen rest : List String} {d : Diagnostic} (hseen : WantsName seen)
      (hrest : ∀ atStart, (seen ≠ [] → atStart = false) →
        namesFrom seen atStart (rest.map .classify) = .error d) :
      namesFrom [] true ((seen ++ rest).map .classify) = .error d := by
    obtain ⟨names, hnames, rfl⟩ := hseen
    rw [namesFrom_listed hnames, List.nil_append, hrest]
    · rfl
    · cases names with
      | nil => simp [listed]
      | cons n names => simp
  have hends {seen rest : List String} {d : Diagnostic} (hseen : EndsInName seen)
      (hrest : namesAfter seen (rest.map .classify) = .error d) :
      namesFrom [] true ((seen ++ rest).map .classify) = .error d := by
    obtain ⟨names, n, hnames, hn, rfl⟩ := hseen
    rw [List.append_assoc, List.singleton_append, namesFrom_listed hnames, List.nil_append,
      namesFrom_name hn, hrest]
    rfl
  cases h with
  | @foreign seen l rest hseen hkind =>
    simp only [List.mem_cons, List.not_mem_nil, or_false] at hkind
    rcases hseen with hseen | hseen
    · refine hwants hseen fun atStart _ => ?_
      rcases hkind with hkind | hkind | hkind
      all_goals simp only [List.map_cons, namesFrom, hkind, text_classify]
    · refine hends hseen ?_
      rcases hkind with hkind | hkind | hkind
      all_goals simp only [List.map_cons, namesAfter, hkind, text_classify]
  | @operator seen l rest hseen hkind hne =>
    rcases hseen with hseen | hseen
    · refine hwants hseen fun atStart _ => ?_
      simp only [List.map_cons, namesFrom, hkind, text_classify, hne, if_false]
    · refine hends hseen ?_
      simp only [List.map_cons, namesAfter, hkind, text_classify, hne, if_false]
  | @adjacent seen l rest hseen hkind =>
    refine hends hseen ?_
    simp only [List.map_cons, namesAfter, hkind, text_classify]
  | @comma seen rest hseen =>
    refine hwants hseen fun atStart _ => ?_
    have hkind : (Token.classify ",").kind = .delimiter := by decide
    simp only [List.map_cons, namesFrom, hkind, text_classify, if_true]
  | @reserved seen l rest hseen hl =>
    refine hwants hseen fun atStart _ => ?_
    have hkind : (Token.classify l).kind = .identifier := by
      rcases hl with rfl | rfl
      · decide
      · decide
    simp only [List.map_cons, namesFrom, hkind, text_classify, Catalogue.isReserved_iff.2 hl, if_true]
  | trailing hseen hne =>
    rw [← List.append_nil ls]
    refine hwants hseen fun atStart hstart => ?_
    simp [namesFrom, hstart hne]

/-- Where a name is expected, any other lexeme breaks the list. -/
lemma exists_breaks_of_wantsName (hseen : WantsName seen) (hl : ¬IsName l) (rest : List String) :
    ∃ d, Breaks (seen ++ l :: rest) d := by
  cases hkind : (Token.classify l).kind with
  | delimiter =>
    by_cases hcomma : l = ","
    · subst hcomma
      exact ⟨_, .comma hseen⟩
    · exact ⟨_, .operator (.inl hseen) hkind hcomma⟩
  | identifier =>
    have hreserved : l = "ce" ∨ l = "cpi" := by
      by_contra hne
      exact hl ⟨hkind, not_or.1 hne⟩
    exact ⟨_, .reserved hseen hreserved⟩
  | number => exact ⟨_, .foreign (.inl hseen) (by simp [hkind])⟩
  | hexNumber => exact ⟨_, .foreign (.inl hseen) (by simp [hkind])⟩
  | unknown => exact ⟨_, .foreign (.inl hseen) (by simp [hkind])⟩
  | finished => exact absurd hkind (Token.kind_classify_ne l)

/-- After a name, any other lexeme than a comma breaks the list. -/
lemma exists_breaks_of_endsInName (hseen : EndsInName seen) (hl : l ≠ ",") (rest : List String) :
    ∃ d, Breaks (seen ++ l :: rest) d := by
  cases hkind : (Token.classify l).kind with
  | delimiter => exact ⟨_, .operator (.inr hseen) hkind hl⟩
  | identifier => exact ⟨_, .adjacent hseen hkind⟩
  | number => exact ⟨_, .foreign (.inr hseen) (by simp [hkind])⟩
  | hexNumber => exact ⟨_, .foreign (.inr hseen) (by simp [hkind])⟩
  | unknown => exact ⟨_, .foreign (.inr hseen) (by simp [hkind])⟩
  | finished => exact absurd hkind (Token.kind_classify_ne l)

/-- Lexemes that come after names with a comma behind each are the rest of a list, or they break it. -/
lemma interspersed_or_breaks (names ls : List String) (hnames : ∀ n ∈ names, IsName n) :
    (∃ names' : List String, (∀ n ∈ names', IsName n) ∧
        listed names ++ ls = names'.intersperse ",") ∨
      ∃ d, Breaks (listed names ++ ls) d := by
  have hwants {names : List String} (hnames : ∀ n ∈ names, IsName n) : WantsName (listed names) :=
    ⟨names, hnames, rfl⟩
  -- A name is taken together with the comma behind it.
  induction ls using List.twoStepInduction generalizing names with
  | nil =>
    rw [List.append_nil]
    by_cases hnil : listed names = []
    · exact .inl ⟨[], nofun, hnil⟩
    · exact .inr ⟨_, .trailing (hwants hnames) hnil⟩
  | singleton l =>
    by_cases hl : IsName l
    · refine .inl ⟨names ++ [l], ?_, (intersperse_concat names l).symm⟩
      simpa [or_imp, forall_and] using And.intro hnames hl
    · exact .inr (exists_breaks_of_wantsName (hwants hnames) hl [])
  | cons_cons l l' ls ih _ =>
    by_cases hl : IsName l
    case neg => exact .inr (exists_breaks_of_wantsName (hwants hnames) hl _)
    by_cases hcomma : l' = ","
    · have hnames' : ∀ n ∈ names ++ [l], IsName n := by
        simpa [or_imp, forall_and] using And.intro hnames hl
      simpa [listed_concat, hcomma] using ih (names ++ [l]) hnames'
    · have hbreaks := exists_breaks_of_endsInName ⟨names, l, hnames, hl, rfl⟩ hcomma ls
      simpa using Or.inr hbreaks

/-- What a clause declares depends on its lexemes. -/
lemma ofClause_eq_ok_iff {clause : String} :
    ofClause clause = .ok ps ↔
      lexemes clause = ps.names.intersperse "," ∧ ∀ n ∈ ps.names, IsName n := by
  have hok {names : List String} (hnames : ∀ n ∈ names, IsName n)
      (hlexemes : lexemes clause = names.intersperse ",") : ofClause clause = .ok ⟨names⟩ := by
    rw [ofClause, tokens, hlexemes, namesFrom_intersperse hnames]
    rfl
  refine ⟨fun h => ?_, fun h => hok h.2 h.1⟩
  rcases interspersed_or_breaks [] (lexemes clause) nofun with
    ⟨names, hnames, hlexemes⟩ | ⟨d, hbreaks⟩
  · cases (hok hnames hlexemes).symm.trans h
    exact ⟨hlexemes, hnames⟩
  · have hbreaks : Breaks (lexemes clause) d := hbreaks
    rw [ofClause, tokens, namesFrom_breaks hbreaks] at h
    cases h

/-- A clause fails where its list is broken. -/
lemma ofClause_eq_error_iff {clause : String} :
    ofClause clause = .error d ↔ Breaks (lexemes clause) d := by
  have herror {d : Diagnostic} (h : Breaks (lexemes clause) d) : ofClause clause = .error d := by
    rw [ofClause, tokens, namesFrom_breaks h]
    rfl
  refine ⟨fun h => ?_, herror⟩
  rcases interspersed_or_breaks [] (lexemes clause) nofun with
    ⟨names, hnames, hlexemes⟩ | ⟨d', hbreaks⟩
  · cases (ofClause_eq_ok_iff.2 ⟨hlexemes, hnames⟩).symm.trans h
  · cases (herror hbreaks).symm.trans h
    exact hbreaks

/-- The slot of a name is the first place where it is declared. -/
lemma slot?_eq_some_iff_first {i : Nat} :
    ps.slot? n = some i ↔ ps.names[i]? = some n ∧ ∀ j < i, ps.names[j]? ≠ some n := by
  rw [slot?, List.idxOf?_eq_some_iff, List.getElem?_eq_some_iff]
  refine ⟨?_, ?_⟩
  · rintro ⟨hlt, hi, hbefore⟩
    refine ⟨⟨hlt, hi⟩, fun j hj hn => hbefore j hj ?_⟩
    exact (List.getElem?_eq_some_iff.1 hn).2
  · rintro ⟨⟨hlt, hi⟩, hbefore⟩
    exact ⟨hlt, hi, fun j hj hn => hbefore j hj (List.getElem?_eq_some_iff.2 ⟨by omega, hn⟩)⟩

/-- A name that is not declared has no slot. -/
lemma slot?_eq_none_iff : ps.slot? n = none ↔ n ∉ ps.names :=
  List.idxOf?_eq_none_iff

/-- The format of a parameter clause. It declares parameters if and only if its lexemes are their names,
which are identifiers other than the names of the constants, with commas between them; the slot of a
name is the first place where it is declared. In any other clause, the first lexeme that breaks this
form decides the failure. -/
theorem ofClause_format (clause : String) :
    (∀ ps, ofClause clause = .ok ps ↔
      lexemes clause = ps.names.intersperse "," ∧ ∀ n ∈ ps.names, IsName n) ∧
    (∀ (ps : Parameters) name,
      (∀ i, ps.slot? name = some i ↔
        ps.names[i]? = some name ∧ ∀ j < i, ps.names[j]? ≠ some name) ∧
      (ps.slot? name = none ↔ name ∉ ps.names)) ∧
    ∀ d, ofClause clause = .error d ↔ Breaks (lexemes clause) d :=
  ⟨fun _ => ofClause_eq_ok_iff, fun _ _ => ⟨fun _ => slot?_eq_some_iff_first, slot?_eq_none_iff⟩,
    fun _ => ofClause_eq_error_iff⟩

end Parameters

end Formula
