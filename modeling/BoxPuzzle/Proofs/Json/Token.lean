import BoxPuzzle.Json.Writer
import BoxPuzzle.Proofs.Text.Numeral
import Mathlib.Data.List.Chain

/-!
# Tokens read back

Every token is read back from its spelling. Punctuation and strings end by themselves; a literal or
a number ends where the next character does not belong to it, so no two of them may be adjacent.

* `Number.ofChars?_chars`, `Token.ofAtom?_chars`: **numbers and literals read back**;
* `Lexing.tokens?`: the scan from any state;
* `Lexing.exists_piece`, **`Lexing.tokens?_quote`**: characters and strings read back;
* `Lexing.tokens?_token`: one token and what follows it;
* `Token.Separated`, **`Token.scan?_flatMap_chars`**: a list of tokens.
-/

namespace BoxPuzzle

/-! ## Numbers -/

theorem span_isDigit {ds rest : List Char} (hd : ∀ c ∈ ds, c.isDigit = true)
    (hr : ∀ c ∈ rest.head?, c.isDigit = false) :
    (ds ++ rest).takeWhile Char.isDigit = ds ∧ (ds ++ rest).dropWhile Char.isDigit = rest := by
  rw [List.takeWhile_append_of_pos hd, List.dropWhile_append_of_pos hd]
  cases rest with
  | nil => exact ⟨List.append_nil ds, rfl⟩
  | cons c cs =>
    have hc : ¬ c.isDigit = true := by rw [hr c rfl]; decide
    rw [List.takeWhile_cons_of_neg hc, List.dropWhile_cons_of_neg hc]
    exact ⟨List.append_nil ds, rfl⟩

theorem readInt?_numeral (n : Nat) : readInt? (numeral n) = some (Int.ofNat n) := by
  have hread := readNat?_numeral n
  obtain ⟨c, cs, hcons, hc⟩ := exists_numeral_eq_cons n
  rw [hcons] at hread ⊢
  unfold readInt?
  split
  · next h => cases h; cases hc
  · next h => cases h; cases hc
  · rw [hread]; rfl

namespace Number

/-- The spelling of an exponent that may be missing. -/
def exponentText : Option Int → List Char
  | some e => exponentChars e
  | none => []

/-- The spelling of fraction digits that may be missing. -/
def fractionText (ds : List (Fin 10)) : List Char :=
  if ds = [] then [] else '.' :: ds.map fun d => Nat.digitChar d.val

theorem chars_eq (n : Number) : n.chars = (if n.negative then ['-'] else []) ++
    (numeral n.whole ++ (fractionText n.fraction ++ exponentText n.exponent)) := by
  rw [← List.append_assoc, ← List.append_assoc]
  unfold chars fractionText exponentText
  cases n.exponent <;> rfl

theorem head?_exponentText (e : Option Int) : ∀ c ∈ (exponentText e).head?, c = 'e' := by
  intro c hc
  match e with
  | none => cases hc
  | some (.ofNat n) => exact (Option.some.inj hc).symm
  | some (.negSucc n) => exact (Option.some.inj hc).symm

theorem withExponent?_exponentText (n : Number) (e : Option Int) (h : n.exponent = none) :
    withExponent? n (exponentText e) = some { n with exponent := e } := by
  match e with
  | none =>
    cases n
    cases h
    rfl
  | some (.ofNat k) =>
    show (readInt? (numeral k)).map _ = _
    rw [readInt?_numeral]
    rfl
  | some (.negSucc k) =>
    show ((readNat? (numeral (k + 1))).map fun n => -(Int.ofNat n)).map _ = _
    rw [readNat?_numeral]
    rfl

theorem withFraction?_fractionText (n : Number) (ds : List (Fin 10)) (e : Option Int)
    (h : n.fraction = []) : withFraction? n (fractionText ds ++ exponentText e) =
      withExponent? { n with fraction := ds } (exponentText e) := by
  have hdigit : ∀ c ∈ (exponentText e).head?, c.isDigit = false := fun c hc => by
    rw [head?_exponentText e c hc]
    rfl
  by_cases hds : ds = []
  · have hdot : ∀ cs, exponentText e ≠ '.' :: cs := by
      intro cs hcs
      cases head?_exponentText e '.' (by rw [hcs]; rfl)
    rw [fractionText, if_pos hds, List.nil_append, hds, ← h]
    unfold withFraction?
    split
    · next hcs => exact absurd hcs (hdot _)
    · rfl
  · have hall : ∀ c ∈ ds.map fun d => Nat.digitChar d.val, c.isDigit = true := by
      intro c hc
      obtain ⟨d, -, rfl⟩ := List.mem_map.1 hc
      rw [Nat.isDigit_digitChar]
      exact decide_eq_true d.isLt
    obtain ⟨htake, hdrop⟩ := span_isDigit hall hdigit
    have hne : (ds.map fun d => Nat.digitChar d.val) ≠ [] := fun h0 => hds (List.map_eq_nil_iff.1 h0)
    have hback : (ds.map fun d => Nat.digitChar d.val).map digitFin = ds := by
      rw [List.map_map]
      refine (List.map_congr_left fun d _ => ?_).trans (List.map_id ds)
      refine Fin.ext ?_
      show digitValue (Nat.digitChar d.val) % 10 = d.val
      rw [digitValue_digitChar d.isLt, Nat.mod_eq_of_lt d.isLt]
    rw [fractionText, if_neg hds, List.cons_append]
    simp only [withFraction?, htake, hdrop, if_neg hne, hback]

theorem ofUnsigned?_numeral (negative : Bool) (w : Nat) {rest : List Char}
    (h : ∀ c ∈ rest.head?, c.isDigit = false) :
    ofUnsigned? negative (numeral w ++ rest) = withFraction? { negative, whole := w } rest := by
  obtain ⟨htake, hdrop⟩ := span_isDigit (fun c => isDigit_of_mem_numeral (n := w)) h
  have hzero : ¬ (numeral w = [] ∨ ((numeral w).head? = some '0' ∧ (numeral w).length ≠ 1)) := by
    rintro (hnil | ⟨hhead, hlen⟩)
    · exact numeral_ne_nil w hnil
    · rcases Nat.eq_zero_or_pos w with rfl | hpos
      · exact hlen rfl
      · exact head?_numeral hpos hhead
  simp only [ofUnsigned?, htake, hdrop, if_neg hzero, digitsValue_numeral]

/-- **A number reads back.** -/
theorem ofChars?_chars (n : Number) : ofChars? n.chars = some n := by
  have hrest : ∀ c ∈ (fractionText n.fraction ++ exponentText n.exponent).head?,
      c.isDigit = false := by
    intro c hc
    unfold fractionText at hc
    split_ifs at hc
    · rw [List.nil_append] at hc
      rw [head?_exponentText _ c hc]
      rfl
    · cases hc
      rfl
  have hunsigned : ofUnsigned? n.negative (numeral n.whole ++
      (fractionText n.fraction ++ exponentText n.exponent)) = some n := by
    rw [ofUnsigned?_numeral _ _ hrest, withFraction?_fractionText _ _ _ rfl,
      withExponent?_exponentText _ _ rfl]
  rw [chars_eq]
  cases hneg : n.negative with
  | true =>
    rw [hneg] at hunsigned
    exact hunsigned
  | false =>
    rw [hneg] at hunsigned
    obtain ⟨c, cs, hcons, hc⟩ := exists_numeral_eq_cons n.whole
    rw [hcons] at hunsigned ⊢
    unfold ofChars?
    split
    · next h => cases h; cases hc
    · exact hunsigned

end Number

/-! ## Atoms -/

namespace Lexing

theorem endsAtom_digitChar : ∀ n < 10, endsAtom (Nat.digitChar n) = false := by decide

theorem endsAtom_of_isDigit {c : Char} (h : c.isDigit = true) : endsAtom c = false := by
  rw [← digitChar_digitValue h]
  exact endsAtom_digitChar _ (digitValue_lt h)

theorem between_of_inside (tokens : List Token) {c : Char} (h : endsAtom c = false) :
    between tokens c = { tokens, lexeme := .atom [c] } := by
  rw [endsAtom, Bool.or_eq_false_iff, Bool.or_eq_false_iff, decide_eq_false_iff_not,
    Option.isSome_eq_false_iff, Option.isNone_iff_eq_none] at h
  simp only [between, h.1.1, Bool.false_eq_true, if_false, if_neg h.1.2, h.2]

end Lexing

open Lexing in
theorem Number.endsAtom_of_mem_chars {n : Number} {c : Char} (h : c ∈ n.chars) :
    endsAtom c = false := by
  have hnumeral : ∀ {k : Nat}, c ∈ numeral k → endsAtom c = false :=
    fun h => endsAtom_of_isDigit (isDigit_of_mem_numeral h)
  rw [chars_eq, List.mem_append, List.mem_append, List.mem_append] at h
  rcases h with h | h | h | h
  · split_ifs at h
    · cases List.mem_singleton.1 h
      rfl
    · cases h
  · exact hnumeral h
  · unfold fractionText at h
    split_ifs at h
    · cases h
    · rcases List.mem_cons.1 h with rfl | h
      · rfl
      · obtain ⟨d, -, rfl⟩ := List.mem_map.1 h
        exact endsAtom_digitChar d.val d.isLt
  · match n.exponent, h with
    | none, h => cases h
    | some (.ofNat k), h =>
      rcases List.mem_cons.1 h with rfl | h
      · rfl
      · exact hnumeral h
    | some (.negSucc k), h =>
      rcases List.mem_cons.1 h with rfl | h
      · rfl
      · rcases List.mem_cons.1 h with rfl | h
        · rfl
        · exact hnumeral h

namespace Token

/-- The token is a literal or a number: only the next character shows where it ends. -/
def isAtom : Token → Bool
  | null | bool _ | number _ => true
  | _ => false

theorem endsAtom_of_mem_chars {t : Token} (h : t.isAtom = true) :
    ∀ c ∈ t.chars, Lexing.endsAtom c = false := by
  match t, h with
  | null, _ | bool true, _ | bool false, _ =>
    simp only [chars, List.forall_mem_cons, List.not_mem_nil, false_implies, implies_true]
    decide
  | number n, _ => exact fun c => Number.endsAtom_of_mem_chars

theorem ofAtom?_chars {t : Token} (h : t.isAtom = true) : ofAtom? t.chars = some t := by
  match t, h with
  | null, _ => rfl
  | bool true, _ => rfl
  | bool false, _ => rfl
  | number n, _ =>
    have hn := n.ofChars?_chars
    -- no literal is spelled like a number
    have hliteral : ∀ cs, Number.ofChars? cs = none → n.chars ≠ cs := by
      rintro cs hcs rfl
      rw [hcs] at hn
      cases hn
    show ofAtom? n.chars = _
    rw [ofAtom?, if_neg (hliteral _ rfl), if_neg (hliteral _ rfl), if_neg (hliteral _ rfl), hn]
    rfl

end Token

/-! ## The scan -/

namespace Lexing

/-- The tokens of a text that is read on from `s`. -/
def tokens? (s : Lexing) (cs : List Char) : Option (List Token) := (cs.foldlM step s).bind finish?

theorem tokens?_nil (s : Lexing) : s.tokens? [] = s.finish? := rfl

theorem tokens?_cons (s : Lexing) (c : Char) (cs : List Char) :
    s.tokens? (c :: cs) = (s.step c).bind (·.tokens? cs) := by
  rw [tokens?, List.foldlM_cons]
  exact Option.bind_assoc _ _ _

theorem tokens?_inside (acc : List Token) {cs : List Char} (h : ∀ c ∈ cs, endsAtom c = false)
    (done rest : List Char) : tokens? ⟨acc, .atom done⟩ (cs ++ rest) =
      tokens? ⟨acc, .atom (cs.reverse ++ done)⟩ rest := by
  induction cs generalizing done with
  | nil => rfl
  | cons c cs ih =>
    rw [List.forall_mem_cons] at h
    have hstep : step ⟨acc, .atom done⟩ c = some ⟨acc, .atom (c :: done)⟩ := by
      simp only [step, h.1, Bool.false_eq_true, if_false]
    rw [List.cons_append, tokens?_cons, hstep, Option.bind_some, ih h.2, List.reverse_cons,
      List.append_assoc, List.singleton_append]

/-- The text ends here, or goes on with a character that ends an atom. -/
def Stops (rest : List Char) : Prop := ∀ c ∈ rest.head?, endsAtom c = true

theorem tokens?_atom (acc : List Token) {t : Token} {done rest : List Char}
    (ht : Token.ofAtom? done.reverse = some t) (hr : Stops rest) :
    tokens? ⟨acc, .atom done⟩ rest = tokens? { tokens := t :: acc } rest := by
  cases rest with
  | nil =>
    simp only [tokens?_nil, finish?, ht]
    rfl
  | cons c cs =>
    have hstep : step ⟨acc, .atom done⟩ c = step { tokens := t :: acc } c := by
      simp only [step, hr c rfl, if_true, ht]
      rfl
    rw [tokens?_cons, tokens?_cons, hstep]

/-! ## Strings -/

theorem hexValue?_hexDigit : ∀ n < 16, hexValue? (hexDigit n) = some n := by decide

theorem combine?_unit {u : Nat} (h : u < 0xD800) (qs : List Piece) :
    combine? (.unit u :: qs) = (combine? qs).map (Char.ofNat u :: ·) := by
  have hhigh : isHighSurrogate u = false := by
    simp only [isHighSurrogate, Bool.and_eq_false_iff, decide_eq_false_iff_not]
    omega
  have hlow : isLowSurrogate u = false := by
    simp only [isLowSurrogate, Bool.and_eq_false_iff, decide_eq_false_iff_not]
    omega
  rw [combine?.eq_def]
  simp only [hhigh, hlow, Bool.false_eq_true, if_false]

/-- A control character is read as the unit that its escape names. -/
theorem tokens?_control (acc : List Token) (ps : List Piece) {c : Char} (h : c.toNat < 0x20)
    (rest : List Char) :
    tokens? ⟨acc, .text ps⟩ (['\\', 'u', '0', '0', hexDigit (c.toNat / 16), hexDigit (c.toNat % 16)] ++
      rest) = tokens? ⟨acc, .text (.unit c.toNat :: ps)⟩ rest := by
  have hhigh := hexValue?_hexDigit (c.toNat / 16) (by omega)
  have hlow := hexValue?_hexDigit (c.toNat % 16) (by omega)
  have hopen : tokens? ⟨acc, .text ps⟩ (['\\', 'u', '0', '0', hexDigit (c.toNat / 16),
      hexDigit (c.toNat % 16)] ++ rest) =
        tokens? ⟨acc, .unit ps 0 2⟩ (hexDigit (c.toNat / 16) :: hexDigit (c.toNat % 16) :: rest) := rfl
  have hunit : 16 * (c.toNat / 16) + c.toNat % 16 = c.toNat := Nat.div_add_mod c.toNat 16
  rw [hopen, tokens?_cons]
  simp only [step, hhigh, Option.bind_eq_bind, Option.bind_some, Nat.mul_zero, Nat.zero_add]
  show tokens? ⟨acc, .unit ps (c.toNat / 16) 3⟩ (hexDigit (c.toNat % 16) :: rest) = _
  rw [tokens?_cons]
  simp only [step, hlow, Option.bind_eq_bind, Option.bind_some, if_true, hunit]
  rfl

/-- **A character is read as one piece, which names it.** -/
theorem exists_piece (c : Char) : ∃ p : Piece,
    (∀ acc ps rest, tokens? ⟨acc, .text ps⟩ (escapeChar c ++ rest) =
      tokens? ⟨acc, .text (p :: ps)⟩ rest) ∧
    ∀ qs, combine? (p :: qs) = (combine? qs).map (c :: ·) := by
  unfold escapeChar
  split_ifs with h1 h2 h3 h4 h5 h6 h7 h8
  · subst h1; exact ⟨.char '"', fun _ _ _ => rfl, fun _ => rfl⟩
  · subst h2; exact ⟨.char '\\', fun _ _ _ => rfl, fun _ => rfl⟩
  · subst h3; exact ⟨.char '\x08', fun _ _ _ => rfl, fun _ => rfl⟩
  · subst h4; exact ⟨.char '\x0c', fun _ _ _ => rfl, fun _ => rfl⟩
  · subst h5; exact ⟨.char '\n', fun _ _ _ => rfl, fun _ => rfl⟩
  · subst h6; exact ⟨.char '\r', fun _ _ _ => rfl, fun _ => rfl⟩
  · subst h7; exact ⟨.char '\t', fun _ _ _ => rfl, fun _ => rfl⟩
  · refine ⟨.unit c.toNat, fun acc ps rest => tokens?_control acc ps h8 rest, fun qs => ?_⟩
    rw [combine?_unit (by omega), Char.ofNat_toNat]
  · refine ⟨.char c, fun acc ps rest => ?_, fun _ => rfl⟩
    have hstep : step ⟨acc, .text ps⟩ c = some ⟨acc, .text (.char c :: ps)⟩ := by
      simp only [step, if_neg h1, if_neg h2, if_neg h8]
    rw [List.singleton_append, tokens?_cons, hstep, Option.bind_some]

theorem exists_pieces (cs : List Char) : ∃ qs : List Piece, combine? qs = some cs ∧
    ∀ acc ps rest, tokens? ⟨acc, .text ps⟩ (cs.flatMap escapeChar ++ rest) =
      tokens? ⟨acc, .text (qs.reverse ++ ps)⟩ rest := by
  induction cs with
  | nil => exact ⟨[], rfl, fun _ _ _ => rfl⟩
  | cons c cs ih =>
    obtain ⟨p, hread, hname⟩ := exists_piece c
    obtain ⟨qs, hqs, hreads⟩ := ih
    refine ⟨p :: qs, by rw [hname, hqs]; rfl, fun acc ps rest => ?_⟩
    rw [List.flatMap_cons, List.append_assoc, hread, hreads, List.reverse_cons, List.append_assoc,
      List.singleton_append]

/-- **A string reads back.** -/
theorem tokens?_quote (acc : List Token) (s : String) (rest : List Char) :
    tokens? { tokens := acc } (quote s.toList ++ rest) =
      tokens? { tokens := .text (some s) :: acc } rest := by
  obtain ⟨qs, hqs, hreads⟩ := exists_pieces s.toList
  have hopen : tokens? { tokens := acc } (quote s.toList ++ rest) =
      tokens? ⟨acc, .text []⟩ (s.toList.flatMap escapeChar ++ '"' :: rest) := by
    rw [quote, List.cons_append, List.cons_append, List.append_assoc, List.singleton_append,
      tokens?_cons]
    rfl
  have hclose : step ⟨acc, .text (qs.reverse ++ [])⟩ '"' =
      some { tokens := .text (some s) :: acc } := by
    simp only [step, if_true, List.append_nil, List.reverse_reverse, hqs, Option.map_some,
      String.ofList_toList]
  rw [hopen, hreads, tokens?_cons, hclose, Option.bind_some]

/-! ## All tokens -/

/-- **A token reads back**, if the text does not go on with its characters. -/
theorem tokens?_token (acc : List Token) (t : Token) {rest : List Char}
    (h : t.isAtom = true → Stops rest) :
    tokens? { tokens := acc } (t.chars ++ rest) = tokens? { tokens := t :: acc } rest := by
  by_cases ht : t.isAtom = true
  · -- the first character opens an atom, the others stay inside, and `rest` closes it
    have hatom := Token.ofAtom?_chars ht
    have hinside := Token.endsAtom_of_mem_chars ht
    cases hcs : t.chars with
    | nil =>
      rw [hcs] at hatom
      cases hatom
    | cons c cs =>
      rw [hcs, List.forall_mem_cons] at hinside
      have hstep : step { tokens := acc } c = some ⟨acc, .atom [c]⟩ :=
        congrArg some (between_of_inside acc hinside.1)
      have hdone : (cs.reverse ++ [c]).reverse = t.chars := by
        rw [hcs, List.reverse_append, List.reverse_reverse, List.reverse_singleton,
          List.singleton_append]
      rw [List.cons_append, tokens?_cons, hstep, Option.bind_some, tokens?_inside acc hinside.2]
      exact tokens?_atom acc (hdone ▸ hatom) (h ht)
  · match t, ht with
    | .arrayOpen, _ | .arrayClose, _ | .objectOpen, _ | .objectClose, _ | .colon, _ | .comma, _ => rfl
    | .text none, _ => rfl
    | .text (some s), _ => exact tokens?_quote acc s rest

end Lexing

namespace Token

/-- No two atoms are next to each other. -/
def Separated (ts : List Token) : Prop :=
  ts.IsChain fun t u => ¬ (t.isAtom = true ∧ u.isAtom = true)

theorem separated_append_cons {ts us : List Token} {t : Token} (h : t.isAtom = false) :
    Separated (ts ++ t :: us) ↔ Separated ts ∧ Separated us := by
  unfold Separated
  rw [List.isChain_append, List.isChain_cons]
  simp [h]

theorem separated_cons {t : Token} {ts : List Token} (h : t.isAtom = false) (hs : Separated ts) :
    Separated (t :: ts) := by
  rw [← List.nil_append (t :: ts)]
  exact (separated_append_cons h).2 ⟨.nil, hs⟩

theorem stops_flatMap_chars {t : Token} {ts : List Token} (h : Separated (t :: ts))
    (ht : t.isAtom = true) : Lexing.Stops (ts.flatMap chars) := by
  cases ts with
  | nil => intro c hc; cases hc
  | cons u us =>
    have hu : u.isAtom = false := by
      unfold Separated at h
      rw [List.isChain_cons_cons, ht] at h
      simpa using h.1
    intro c hc
    match u, hu with
    | arrayOpen, _ | arrayClose, _ | objectOpen, _ | objectClose, _ | colon, _ | comma, _ =>
      cases hc
      rfl
    | text none, _ =>
      cases hc
      rfl
    | text (some s), _ =>
      cases hc
      rfl

/-- **Separated tokens read back.** -/
theorem scan?_flatMap_chars {ts : List Token} (h : Separated ts) :
    scan? (ts.flatMap chars) = some ts := by
  -- the tokens read so far are kept in reverse
  have go : ∀ acc, Lexing.tokens? { tokens := acc } (ts.flatMap chars) =
      some (acc.reverse ++ ts) := by
    induction ts with
    | nil =>
      intro acc
      rw [List.append_nil]
      rfl
    | cons t ts ih =>
      intro acc
      rw [List.flatMap_cons, Lexing.tokens?_token acc t (stops_flatMap_chars h),
        ih h.tail, List.reverse_cons, List.append_assoc, List.singleton_append]
  exact go []

end Token

end BoxPuzzle
