import Formula.Proofs.OnePass.Agreement
import Formula.Proofs.Parser.Locality
import Formula.Proofs.Stages

/-!
# Where a body fails to compile

The detail of a failure is the lexemes of the body that were read, the current one included. What
comes after them has no influence on it, unless the failure is a syntax error. The current token and
the number of lexemes read are those of the one-pass compiler, which reads them through a cursor.
-/

namespace Formula

/-- What was read of a body when a token of it is the current one. -/
lemma consumed_append (us : List Token) (t : Token) (vs : List Token) :
    consumed (us ++ t :: vs) (t :: vs) = String.join ((us ++ [t]).map (·.text)) := by
  have hlength : (us ++ t :: vs).length + 1 - (t :: vs).length = (us ++ [t]).length := by
    simp only [List.length_append, List.length_cons, List.length_nil]
    omega
  rw [consumed, hlength, List.append_cons us t vs, List.take_left]

namespace OnePass

/-- The number of lexemes that were read up to and including the current token. -/
def Stop.lexemesRead (stop : Stop) : Nat :=
  min stop.state.cursor.position stop.state.cursor.lexemes.length

variable {L : List String} {slack : Nat} {s : State} {t : Token} {ts : List Token}

/-- The lexemes that were read are those before the position of the cursor. -/
lemma Stands.take_lexemesRead (h : Stands L slack s ts) (kind : ErrorKind) :
    L.take (Stop.lexemesRead ⟨kind, s⟩) = L.take s.cursor.position := by
  rw [Stop.lexemesRead, h.lexemes_eq, ← List.take_take, List.take_length]

/-- At the end all lexemes were read. -/
lemma Stands.lexemesRead_of_nil (h : Stands L slack s []) (kind : ErrorKind) :
    Stop.lexemesRead ⟨kind, s⟩ = L.length := by
  have hlength := h.length_eq
  rw [List.length_nil] at hlength
  have hposition : s.cursor.position = L.length + 1 := by omega
  rw [Stop.lexemesRead, h.lexemes_eq, hposition]
  exact Nat.min_eq_right (Nat.le_succ _)

/-- Before the end, the current token is that of the last lexeme that was read. -/
lemma Stands.exists_of_cons (h : Stands L slack s (t :: ts)) :
    ∃ ls l ms, L = ls ++ l :: ms ∧ L.take s.cursor.position = ls ++ [l] ∧ t = .classify l ∧
      ts = ms.map .classify := by
  obtain ⟨ls, hls⟩ : ∃ ls, L.take (s.cursor.position - 1) = ls := ⟨_, rfl⟩
  obtain ⟨ms, hms⟩ : ∃ ms, L.drop (s.cursor.position - 1) = ms := ⟨_, rfl⟩
  have hL : L = ls ++ ms := by rw [← hls, ← hms, List.take_append_drop]
  have htokens := h.tokens_eq
  rw [hms] at htokens
  cases ms with
  | nil => cases htokens
  | cons l ms =>
    obtain ⟨rfl, rfl⟩ := List.cons.inj htokens
    have hposition : s.cursor.position = (ls ++ [l]).length := by
      have hpos := h.position_pos
      have hlength := h.length_eq
      simp only [List.length_cons, List.length_map] at hlength
      simp only [← hls, List.length_append, List.length_take, List.length_singleton]
      omega
    refine ⟨ls, l, ms, hL, ?_, rfl, rfl⟩
    rw [hposition, hL, List.append_cons ls l ms, List.take_left]

end OnePass

variable {text : String} {options : CompileOptions} {clauses : Clauses} {ps : Parameters}
  {d : Diagnostic}

/-- A body that fails at a lexeme fails there in the same way whatever comes after it, unless it is
a syntax error. -/
lemma compile_eq_error_of_lexemes {ls ms : List String} {l : String} {kind : ErrorKind}
    (hps : Parameters.ofClause clauses.parameters = .ok ps)
    (hbody : (Parser.body options.allowConditionalAssignment ps).run
      ((ls ++ l :: ms).map .classify) = .error ⟨kind, (l :: ms).map .classify⟩)
    (hkind : kind ≠ .malformed) (hclauses : Clauses.ofText text = .ok clauses)
    (hlexemes : ls ++ [l] <+: lexemes clauses.body) :
    compile text options = .error (.after kind (String.join (ls ++ [l]))) := by
  obtain ⟨ms', hms'⟩ := hlexemes
  have htokens : tokens clauses.body =
      ls.map .classify ++ .classify l :: ms'.map .classify := by
    rw [tokens, ← hms']
    simp
  rw [List.map_append, List.map_cons] at hbody
  have hrun := Parser.run_body_of_error hbody hkind (ms'.map .classify)
  rw [← htokens] at hrun
  refine (compile_eq_error_iff hclauses hps).2 ⟨_, hrun, ?_⟩
  rw [htokens, consumed_append]
  have htexts : ((ls ++ [l]).map Token.classify).map (·.text) = ls ++ [l] := by
    rw [List.map_map]
    exact List.map_id _
  rw [← List.map_singleton, ← List.map_append, htexts]

/-- A compilation that fails with a kind of neither the clauses nor the parameters stops in the
body, where the parser fails. -/
lemma exists_read_of_compile_eq_error (h : compile text options = .error d)
    (hkind : d.kind ∉ Clauses.failures ++ Parameters.failures) :
    ∃ clauses ps s rest, Clauses.ofText text = .ok clauses ∧
      Parameters.ofClause clauses.parameters = .ok ps ∧
      (Parser.body options.allowConditionalAssignment ps).run (tokens clauses.body) =
        .error ⟨d.kind, rest⟩ ∧
      OnePass.read options.allowConditionalAssignment ps clauses.body = .error ⟨d.kind, s⟩ ∧
      OnePass.Stands (lexemes clauses.body) 1 s rest ∧
      d.detail = String.join ((lexemes clauses.body).take s.cursor.position) ++ d.kind.tag := by
  obtain ⟨clauses, ps, hclauses, hps⟩ := exists_of_compile_eq_error h hkind
  obtain ⟨f, hbody, rfl⟩ := (compile_eq_error_iff hclauses hps).1 h
  obtain ⟨s, hread, hstands⟩ := OnePass.read_of_error hbody
  refine ⟨clauses, ps, s, f.rest, hclauses, hps, hbody, hread, hstands, ?_⟩
  rw [Diagnostic.after, ← hstands.detail_eq, Cursor.detail, hstands.lexemes_eq]

/-- If a formula whose clauses and parameters are in order fails to compile, the detail is the
lexemes of the body up to and including the current token, all of them at the end, and the tag of
the kind. Unless it is a syntax error or the end, every formula with these parameters and a body
that starts with these lexemes fails with the same diagnostic. -/
theorem compile_error_located (hclauses : Clauses.ofText text = .ok clauses)
    (hps : Parameters.ofClause clauses.parameters = .ok ps)
    (h : compile text options = .error d) :
    ∃ stop, OnePass.read options.allowConditionalAssignment ps clauses.body = .error stop ∧
      d.kind = stop.kind ∧
      d.detail = String.join ((lexemes clauses.body).take stop.lexemesRead) ++ d.kind.tag ∧
      (stop.state.current = .finished ∧ stop.lexemesRead = (lexemes clauses.body).length ∨
        ∃ l, ((lexemes clauses.body).take stop.lexemesRead).getLast? = some l ∧
          stop.state.current = .classify l) ∧
      (d.kind ≠ .malformed → stop.state.current ≠ .finished →
        ∀ text' clauses', Clauses.ofText text' = .ok clauses' →
          clauses'.parameters = clauses.parameters →
          (lexemes clauses'.body).take stop.lexemesRead =
            (lexemes clauses.body).take stop.lexemesRead →
          compile text' options = .error d) := by
  obtain ⟨f, hbody, rfl⟩ := (compile_eq_error_iff hclauses hps).1 h
  obtain ⟨s, hread, hstands⟩ := OnePass.read_of_error hbody
  obtain ⟨kind, rest⟩ := f
  have htake := hstands.take_lexemesRead kind
  refine ⟨_, hread, rfl, ?_, ?_, ?_⟩
  · rw [htake, Diagnostic.after, ← hstands.detail_eq, Cursor.detail, hstands.lexemes_eq]
  · cases rest with
    | nil => exact .inl ⟨hstands.current_eq, hstands.lexemesRead_of_nil kind⟩
    | cons t ts =>
      obtain ⟨ls, l, ms, -, htaken, rfl, -⟩ := hstands.exists_of_cons
      exact .inr ⟨l, by rw [htake, htaken, List.getLast?_concat], hstands.current_eq⟩
  · intro hkind hcurrent text' clauses' hclauses' hsame hprefix
    cases rest with
    | nil => exact absurd hstands.current_eq hcurrent
    | cons t ts =>
      obtain ⟨ls, l, ms, hlexemes, htaken, rfl, rfl⟩ := hstands.exists_of_cons
      rw [htake, htaken] at hprefix
      have hbody' := hbody
      rw [tokens, hlexemes] at hbody'
      have hps' : Parameters.ofClause clauses'.parameters = .ok ps := hsame ▸ hps
      have hstart : ls ++ [l] <+: lexemes clauses.body := ⟨ms, by rw [hlexemes]; simp⟩
      have hstart' : ls ++ [l] <+: lexemes clauses'.body := hprefix ▸ List.take_prefix _ _
      have herror := compile_eq_error_of_lexemes hps hbody' hkind hclauses hstart
      have herror' := compile_eq_error_of_lexemes hps' hbody' hkind hclauses' hstart'
      exact herror'.trans (herror.symm.trans h)

/-- The closing parenthesis of `a+)*2` is not opened, and neither is that of any text which starts
with these three lexemes. -/
theorem compile_error_located_paren :
    Clauses.ofText "\x7b|a|a+)*2\x7d" = .ok ⟨"a", "a+)*2"⟩ ∧
      Parameters.ofClause "a" = .ok ⟨["a"]⟩ ∧
      compile "\x7b|a|a+)*2\x7d" {} = .error ⟨.unbalancedParens, "a+)<e12>"⟩ ∧
      ∀ text' clauses', Clauses.ofText text' = .ok clauses' → clauses'.parameters = "a" →
        (lexemes clauses'.body).take 3 = ["a", "+", ")"] →
        compile text' {} = .error ⟨.unbalancedParens, "a+)<e12>"⟩ := by
  have hclauses : Clauses.ofText "\x7b|a|a+)*2\x7d" = .ok ⟨"a", "a+)*2"⟩ := by decide +kernel
  have hps : Parameters.ofClause "a" = .ok ⟨["a"]⟩ := by decide +kernel
  have hcompile : compile "\x7b|a|a+)*2\x7d" {} = .error ⟨.unbalancedParens, "a+)<e12>"⟩ := by
    decide +kernel
  refine ⟨hclauses, hps, hcompile, ?_⟩
  obtain ⟨stop, hread, -, -, -, hlocal⟩ := compile_error_located hclauses hps hcompile
  have hstop : (OnePass.read false ⟨["a"]⟩ "a+)*2").mapError
      (fun stop => (stop.lexemesRead, stop.state.current)) = .error (3, .sign ")") := by
    decide +kernel
  rw [hread] at hstop
  simp only [Except.mapError, Except.error.injEq, Prod.mk.injEq] at hstop
  obtain ⟨hcount, hcurrent⟩ := hstop
  rw [hcount, hcurrent] at hlocal
  have htake : (lexemes "a+)*2").take 3 = ["a", "+", ")"] := by decide +kernel
  rw [htake] at hlocal
  exact hlocal (by decide) (by decide)

end Formula
