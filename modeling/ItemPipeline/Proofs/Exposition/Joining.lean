import ItemPipeline.Exposition.Parser
import ItemPipeline.Proofs.Text

/-!
Payloads one below the other. What is read of the whole is what is read of the first and then of the second, with the
lines of the second numbered behind those of the first.
-/

namespace ItemPipeline

namespace Text

lemma trimBlanks_dropReturn (l : List Char) : trimBlanks (dropReturn l) = trimBlanks l := by
  unfold dropReturn
  split
  · rename_i r hr
    have ends : l = r.reverse ++ ['\r'] := by rw [← l.reverse_reverse, hr, List.reverse_cons]
    rw [ends, trimBlanks_append (List.forall_mem_singleton.2 rfl)]
  · rfl

end Text

namespace Exposition

def LineFault.later (k : ℕ) (e : LineFault) : LineFault :=
  { e with line := e.line + k }

variable {ls ls' : List (List Char)} {n : ℕ}

namespace Payload

lemma empty_append (p : Payload) : append {} p = p := by
  simp [append]

lemma append_assoc (p q r : Payload) : (p.append q).append r = p.append (q.append r) := by
  simp [append]

end Payload

lemma parseLine_dropReturn (l : List Char) : parseLine (Text.dropReturn l) = parseLine l := by
  rw [parseLine, Text.trimBlanks_dropReturn, parseLine]

lemma parseLines_ended (n : ℕ) (ls : List (List Char)) : parseLines n (Text.lines.ended ls) = parseLines n ls := by
  induction ls generalizing n with
  | nil => rfl
  | cons l ls ih =>
    cases ls with
    | nil =>
      rw [Text.lines.ended]
      split_ifs with empty
      · rw [empty]
        rfl
      · rfl
    | cons l' ls =>
      rw [Text.ended_cons l (List.cons_ne_nil _ _), parseLines, parseLine_dropReturn, parseLines, ih]

lemma parse_eq (text : String) : parse text = parseLines 1 (Text.splitOn '\n' text.toList) :=
  parseLines_ended 1 _

lemma parseLines_append (n : ℕ) (ls ls' : List (List Char)) : parseLines n (ls ++ ls') =
    (parseLines n ls).bind fun p => (parseLines (n + ls.length) ls').map p.append := by
  induction ls generalizing n with
  | nil =>
    cases rest : parseLines n ls' with
    | error e => simp [parseLines, Except.bind, Except.map, rest]
    | ok q => simp [parseLines, Except.bind, Except.map, rest, Payload.empty_append]
  | cons l ls ih =>
    rw [List.cons_append, parseLines, parseLines, ih, List.length_cons, Nat.add_right_comm, ← Nat.add_assoc]
    cases parseLine l with
    | error f => rfl
    | ok p =>
      cases parseLines (n + 1) ls with
      | error e => rfl
      | ok q =>
        cases parseLines (n + ls.length + 1) ls' with
        | error e => rfl
        | ok r => simp [Except.bind, Except.map, Payload.append_assoc]

lemma parseLines_later (k n : ℕ) (ls : List (List Char)) :
    parseLines (n + k) ls = (parseLines n ls).mapError (LineFault.later k) := by
  induction ls generalizing n with
  | nil => rfl
  | cons l ls ih =>
    rw [parseLines, parseLines, Nat.add_right_comm, ih]
    cases parseLine l with
    | error f => rfl
    | ok p => cases parseLines (n + 1) ls <;> rfl

lemma parse_below (t u : String) : parse (t ++ "\n" ++ u) =
    (parse t).bind fun p => ((parse u).mapError (LineFault.later (t.toList.count '\n' + 1))).map p.append := by
  have joined : (t ++ "\n" ++ u).toList = t.toList ++ '\n' :: u.toList := by simp
  rw [parse_eq, joined, Text.splitOn_join, parseLines_append, parse_eq t, parse_eq u, Text.length_splitOn,
    parseLines_later]

/-- Joined at a newline two payloads have the samples of both, and of two texts for one metric that of the second. A fault
is told as in the payload that has it, with the number of the line in the whole. -/
theorem parse_join (t u : String) :
    (∀ p q, parse t = .ok p → parse u = .ok q → ∃ r, parse (t ++ "\n" ++ u) = .ok r ∧
      r.samples = p.samples ++ q.samples ∧
      (∀ metric, r.help.lookup metric = (q.help.lookup metric).or (p.help.lookup metric)) ∧
      ∀ metric, r.types.lookup metric = (q.types.lookup metric).or (p.types.lookup metric)) ∧
    (∀ e, parse t = .error e → parse (t ++ "\n" ++ u) = .error e) ∧
    ∀ p n f, parse t = .ok p → parse u = .error ⟨n, f⟩ →
      parse (t ++ "\n" ++ u) = .error ⟨n + 1 + t.toList.count '\n', f⟩ := by
  refine ⟨?_, ?_, ?_⟩
  · intro p q first second
    refine ⟨p.append q, ?_, rfl, fun _ => List.lookup_append, fun _ => List.lookup_append⟩
    rw [parse_below, first, second]
    rfl
  · intro e first
    rw [parse_below, first]
    rfl
  · intro p n f first second
    rw [parse_below, first, second, Nat.add_assoc, Nat.add_comm 1]
    rfl

theorem parse_join_of_returns :
    ∃ p q r : Payload, parse "# HELP m a\n# HELP n a\nm 1\r" = .ok p ∧ parse "\r\nm 2\n#HELP m b\n" = .ok q ∧
      parse ("# HELP m a\n# HELP n a\nm 1\r" ++ "\n" ++ "\r\nm 2\n#HELP m b\n") = .ok r ∧
      r.samples.map (·.raw) = ["1", "2"] ∧ r.help.lookup "m" = some "b" ∧ r.help.lookup "n" = some "a" ∧
      parse "\nm\r" = .error ⟨2, .badValue ""⟩ ∧
      parse ("\nm\r" ++ "\n" ++ "\r\nm 2\n#HELP m b\n") = .error ⟨2, .badValue ""⟩ ∧
      parse ("# HELP m a\n# HELP n a\nm 1\r" ++ "\n" ++ "\nm\r") = .error ⟨5, .badValue ""⟩ := by
  obtain ⟨p, first, samples, help⟩ : ∃ p, parse "# HELP m a\n# HELP n a\nm 1\r" = .ok p ∧
      p.samples.map (·.raw) = ["1"] ∧ p.help = [("n", "a"), ("m", "a")] := ⟨_, rfl, rfl, rfl⟩
  obtain ⟨q, second, samples', help'⟩ : ∃ q, parse "\r\nm 2\n#HELP m b\n" = .ok q ∧
      q.samples.map (·.raw) = ["2"] ∧ q.help = [("m", "b")] := ⟨_, rfl, rfl, rfl⟩
  have fault : parse "\nm\r" = .error ⟨2, .badValue ""⟩ := rfl
  obtain ⟨joins, -, -⟩ := parse_join "# HELP m a\n# HELP n a\nm 1\r" "\r\nm 2\n#HELP m b\n"
  obtain ⟨-, keeps, -⟩ := parse_join "\nm\r" "\r\nm 2\n#HELP m b\n"
  obtain ⟨-, -, moves⟩ := parse_join "# HELP m a\n# HELP n a\nm 1\r" "\nm\r"
  obtain ⟨r, whole, all, texts, -⟩ := joins p q first second
  refine ⟨p, q, r, first, second, whole, ?_, ?_, ?_, fault, keeps _ fault, moves p 2 _ first fault⟩
  · rw [all, List.map_append, samples, samples']
    rfl
  · rw [texts, help']
    rfl
  · rw [texts, help', help]
    rfl

end Exposition

end ItemPipeline
