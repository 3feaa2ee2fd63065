import Mathlib
import LatexReview.Json.Reader
import LatexReview.Proofs.Json.Numeral

/-!
Reading what was written.

The text of a value is read as the value, but for two things: a number is what its text is
read as, and the members of an object come into the order of their names. Each value is read
with any text behind it that may stand behind a value.
-/

namespace LatexReview.Json

/-! ### A value after it is written and read -/

mutual

/-- What the text of a value is read as. -/
def reread : Json → Json
  | .null => .null
  | .bool b => .bool b
  | .number n => ofNumeral n.render
  | .string s => .string s
  | .array items => .array (rereadItems items)
  | .object members => .object (rereadMembers [] members)

def rereadItems : List Json → List Json
  | [] => []
  | v :: rest => reread v :: rereadItems rest

/-- The members read so far, and those of a row. -/
def rereadMembers (read : List (Text × Json)) : List (Text × Json) → List (Text × Json)
  | [] => read
  | (name, v) :: rest => rereadMembers (insert name (reread v) read) rest

end

mutual

/-- The tokens that a value is written in. -/
def tokensOf : Json → List Token
  | .null => [.null]
  | .bool b => [.bool b]
  | .number n => [.number n.render]
  | .string s => [.string s]
  | .array items => .openBracket :: (itemTokens items ++ [.closeBracket])
  | .object members => .openBrace :: (memberTokens members ++ [.closeBrace])

def itemTokens : List Json → List Token
  | [] => []
  | [v] => tokensOf v
  | v :: rest => tokensOf v ++ .comma :: itemTokens rest

def memberTokens : List (Text × Json) → List Token
  | [] => []
  | [(name, v)] => .string name :: .colon :: tokensOf v
  | (name, v) :: rest => .string name :: .colon :: (tokensOf v ++ .comma :: memberTokens rest)

end

lemma compactItems_cons_cons (v w : Json) (rest : List Json) :
    compactItems (v :: w :: rest) = compact v ++ ',' :: compactItems (w :: rest) := rfl

lemma itemTokens_cons_cons (v w : Json) (rest : List Json) :
    itemTokens (v :: w :: rest) = tokensOf v ++ .comma :: itemTokens (w :: rest) := rfl

lemma compactMembers_cons_cons (name : Text) (v : Json) (m : Text × Json)
    (rest : List (Text × Json)) : compactMembers ((name, v) :: m :: rest) =
      stringText name ++ ':' :: compact v ++ ',' :: compactMembers (m :: rest) := rfl

lemma memberTokens_cons_cons (name : Text) (v : Json) (m : Text × Json)
    (rest : List (Text × Json)) : memberTokens ((name, v) :: m :: rest) =
      .string name :: .colon :: (tokensOf v ++ .comma :: memberTokens (m :: rest)) := rfl

namespace Token

variable {state next : State} {token : Token} {c : Char} {rest more content s : Text}

/-! ### Steps of the scan -/

lemma scan_of_step {tokens : List Token} (h : step state c = some (next, tokens)) (rest : Text) :
    scan state (c :: rest) = (scan next rest).map (tokens ++ ·) := by
  simp only [scan, h, Option.bind_eq_bind, Option.bind_some]
  cases scan next rest <;> rfl

lemma scan_silent (h : step state c = some (next, [])) (rest : Text) :
    scan state (c :: rest) = scan next rest := by
  rw [scan_of_step h]
  cases scan next rest <;> rfl

lemma scan_token (h : step state c = some (next, [token])) (rest : Text) :
    scan state (c :: rest) = (scan next rest).map (token :: ·) := by
  rw [scan_of_step h]
  rfl

/-- What may stand behind a value: nothing, a comma, or the end of an array or object. -/
inductive Delimited : Text → Prop
  | nil : Delimited []
  | cons {c : Char} (h : c = ',' ∨ c = ']' ∨ c = '\x7d') (rest : Text) : Delimited (c :: rest)

/-- What is under way ends as a token where a value may end. -/
def Ends (state : State) (token : Token) : Prop :=
  ∀ rest, Delimited rest → scan state rest = (scan .between rest).map (token :: ·)

lemma ends_of (hfinish : finish state = some [token])
    (hstep : ∀ c, c = ',' ∨ c = ']' ∨ c = '\x7d' → step state c = complete token c) :
    Ends state token := by
  intro rest hrest
  cases hrest with
  | nil => exact hfinish
  | @cons c h rest =>
    obtain ⟨delimiter, hstart⟩ : ∃ delimiter, step .between c = some (.between, [delimiter]) := by
      rcases h with rfl | rfl | rfl
      · exact ⟨.comma, rfl⟩
      · exact ⟨.closeBracket, rfl⟩
      · exact ⟨.closeBrace, rfl⟩
    have hcomplete : step state c = some (.between, [token, delimiter]) := by
      rw [hstep c h, complete, show start c = some (.between, [delimiter]) from hstart]
      rfl
    rw [scan_of_step hcomplete, scan_token hstart]
    cases scan .between rest <;> rfl

/-! ### Numbers -/

lemma scan_number {stage stage' : Stage} (h : stage.run? s = some stage') (before rest : Text) :
    scan (.number stage before) (s ++ rest) = scan (.number stage' (s.reverse ++ before)) rest := by
  induction s generalizing stage before with
  | nil =>
    obtain rfl : stage = stage' := Option.some.inj h
    rfl
  | cons c s ih =>
    rw [Stage.run?_cons, Option.bind_eq_some_iff] at h
    obtain ⟨middle, hmiddle, h⟩ := h
    have hstep : step (.number stage before) c = some (.number middle (c :: before), []) := by
      simp only [step, hmiddle]
    rw [List.cons_append, scan_silent hstep, ih h]
    simp

lemma ends_number {stage : Stage} (h : stage.complete) :
    Ends (.number stage s) (.number s.reverse) := by
  refine ends_of (by simp [finish, h]) fun c hc => ?_
  have hnext : stage.next? c = none := by
    rcases hc with rfl | rfl | rfl <;> cases stage <;> rfl
  simp only [step, hnext, h, if_true]

lemma step_digit {stage : Stage} (h : Stage.sign.next? c = some stage) :
    step .between c = some (.number stage [c], []) := by
  have hdigit : Text.isDigit c := by
    by_contra hnot
    have hzero : c ≠ '0' := by
      rintro rfl
      exact hnot rfl
    simp [Stage.next?, hzero, hnot] at h
  have hcode : 48 ≤ c.toNat ∧ c.toNat ≤ 57 := by
    simpa [Text.isDigit, Char.le_def, UInt32.le_iff_toNat_le] using hdigit
  obtain ⟨hlow, hhigh⟩ := hcode
  have hstart : start c = (Stage.sign.next? c).map fun stage => (.number stage [c], []) := by
    rw [← Char.ofNat_toNat c]
    generalize c.toNat = n at hlow hhigh
    interval_cases n <;> rfl
  change start c = _
  rw [hstart, h]
  rfl

lemma scan_numberText (h : NumberText s) (hrest : Delimited rest) :
    scan .between (s ++ rest) = (scan .between rest).map (.number s :: ·) := by
  cases h with
  | @plain s stage hrun hcomplete =>
    cases s with
    | nil =>
      obtain rfl : Stage.sign = stage := Option.some.inj hrun
      simp [Stage.complete] at hcomplete
    | cons c s =>
      rw [Stage.run?_cons, Option.bind_eq_some_iff] at hrun
      obtain ⟨first, hfirst, hrun⟩ := hrun
      rw [List.cons_append, scan_silent (step_digit hfirst), scan_number hrun,
        ends_number hcomplete rest hrest]
      simp
  | @negative s stage hrun hcomplete =>
    have hstep : step .between '-' = some (.number .sign ['-'], []) := rfl
    rw [List.cons_append, scan_silent hstep, scan_number hrun, ends_number hcomplete rest hrest]
    simp

/-! ### Strings -/

lemma scan_backslash {escaped : Char} (h : readEscape '"' content escaped =
    some (.string '"' (c :: content), [])) (rest : Text) :
    scan (.string '"' content) ('\\' :: escaped :: rest) =
      scan (.string '"' (c :: content)) rest := by
  have hbackslash : step (.string '"' content) '\\' = some (.escape '"' content, []) := rfl
  have hescaped : step (.escape '"' content) escaped = some (.string '"' (c :: content), []) := h
  rw [scan_silent hbackslash, scan_silent hescaped]

lemma hexDigit?_digitChar : ∀ n < 16, hexDigit? (Nat.digitChar n) = some n := by decide

lemma scan_code (h : c.toNat < 0x20) (content rest : Text) :
    scan (.string '"' content) ("\\u00".toList ++ hexPair c.toNat ++ rest) =
      scan (.string '"' (c :: content)) rest := by
  set n := c.toNat with hn
  have hfirst := hexDigit?_digitChar (n / 16) (by omega)
  have hsecond := hexDigit?_digitChar (n % 16) (by omega)
  have hvalue : 16 * (16 * (16 * (16 * 0 + 0) + 0) + n / 16) + n % 16 = n := by omega
  have hhigh : isHigh n = false := by simp [isHigh]; omega
  have hlow : isLow n = false := by simp [isLow]; omega
  have hbackslash : step (.string '"' content) '\\' = some (.escape '"' content, []) := rfl
  have hu : step (.escape '"' content) 'u' = some (.code '"' content none 0 0, []) := rfl
  have hzero : step (.code '"' content none 0 0) '0' =
      some (.code '"' content none 1 (16 * 0 + 0), []) := rfl
  have hzero' : step (.code '"' content none 1 (16 * 0 + 0)) '0' =
      some (.code '"' content none 2 (16 * (16 * 0 + 0) + 0), []) := rfl
  have hthird : step (.code '"' content none 2 (16 * (16 * 0 + 0) + 0)) (Nat.digitChar (n / 16)) =
      some (.code '"' content none 3 (16 * (16 * (16 * 0 + 0) + 0) + n / 16), []) := by
    simp [step, hfirst]
  have hlast : step (.code '"' content none 3 (16 * (16 * (16 * 0 + 0) + 0) + n / 16))
      (Nat.digitChar (n % 16)) = some (.string '"' (c :: content), []) := by
    have hchar : Char.ofNat n = c := Char.ofNat_toNat c
    simp only [step, hsecond, Option.bind_eq_bind, Option.bind_some, hvalue, endCode, hhigh, hlow,
      hchar]
    rfl
  change scan (.string '"' content)
    ('\\' :: 'u' :: '0' :: '0' :: Nat.digitChar (n / 16) :: Nat.digitChar (n % 16) :: rest) = _
  rw [scan_silent hbackslash, scan_silent hu, scan_silent hzero, scan_silent hzero',
    scan_silent hthird, scan_silent hlast]

lemma scan_escapeChar (c : Char) (content rest : Text) :
    scan (.string '"' content) (escapeChar c ++ rest) = scan (.string '"' (c :: content)) rest := by
  unfold escapeChar
  split
  · exact scan_backslash rfl rest
  · exact scan_backslash rfl rest
  · exact scan_backslash rfl rest
  · exact scan_backslash rfl rest
  · exact scan_backslash rfl rest
  · exact scan_backslash rfl rest
  · exact scan_backslash rfl rest
  · rename_i hquote hbackslash _ _ _ _ _
    split
    · rename_i hcontrol
      exact scan_code hcontrol content rest
    · have hstep : step (.string '"' content) c = some (.string '"' (c :: content), []) := by
        have hc : c ≠ '"' := hquote
        have hc' : c ≠ '\\' := hbackslash
        simp [step, hc, hc']
      exact scan_silent hstep rest

lemma scan_content (s content rest : Text) :
    scan (.string '"' content) (s.flatMap escapeChar ++ '"' :: rest) =
      (scan .between rest).map (.string (content.reverse ++ s) :: ·) := by
  induction s generalizing content with
  | nil =>
    have hquote : step (.string '"' content) '"' = some (.between, [.string content.reverse]) := rfl
    rw [List.flatMap_nil, List.nil_append, scan_token hquote, List.append_nil]
  | cons c s ih =>
    rw [List.flatMap_cons, List.append_assoc, scan_escapeChar, ih]
    simp

lemma scan_stringText (s rest : Text) :
    scan .between (stringText s ++ rest) = (scan .between rest).map (.string s :: ·) := by
  have hquote : step .between '"' = some (.string '"' [], []) := rfl
  rw [stringText, List.cons_append, List.cons_append, scan_silent hquote, List.append_assoc,
    List.singleton_append, scan_content]
  rfl

/-! ### Keywords -/

/-- A character that goes on a word. -/
def inWord (c : Char) : Bool := Text.isAlphanumeric c && !Text.isSpace c && c ≠ ':'

lemma scan_letters (h : s.all inWord) (before rest : Text) :
    scan (.word before) (s ++ rest) = scan (.word (s.reverse ++ before)) rest := by
  induction s generalizing before with
  | nil => rfl
  | cons c s ih =>
    rw [List.all_cons, Bool.and_eq_true] at h
    have hstep : step (.word before) c = some (.word (c :: before), []) := by
      have hc : (Text.isAlphanumeric c = true ∧ Text.isSpace c = false) ∧ c ≠ ':' := by
        simpa [inWord] using h.1
      simp [step, readWord, hc]
    rw [List.cons_append, scan_silent hstep, ih h.2]
    simp

lemma ends_keyword (h : keyword? s = some token) : Ends (.word s.reverse) token := by
  have hword : ofWord s = token := by rw [ofWord, h, Option.getD_some]
  refine ends_of (by rw [finish, List.reverse_reverse, hword]) fun c hc => ?_
  have hletter : Text.isAlphanumeric c = false := by
    rcases hc with rfl | rfl | rfl <;> decide +kernel
  have hspace : (Text.isSpace c || c = ':') = false := by
    rcases hc with rfl | rfl | rfl <;> decide +kernel
  simp only [step, readWord, hspace, hletter, List.reverse_reverse, h, Bool.false_eq_true, if_false]

lemma step_keyword (hc : c = 'n' ∨ c = 't' ∨ c = 'f') :
    step .between c = some (.word [c], []) := by
  have hletter : (c = '_' || Text.isAlphanumeric c) = true := by
    rcases hc with rfl | rfl | rfl <;> decide +kernel
  have hspace : Text.isSpace c = false := by
    rcases hc with rfl | rfl | rfl <;> decide +kernel
  have hnumber : (c = '-' || c = '+') = false ∧ Text.isDigit c = false := by
    rcases hc with rfl | rfl | rfl <;> decide +kernel
  change start c = _
  unfold start
  rw [hspace, if_neg Bool.false_ne_true]
  split
  case h_10 => simp only [hnumber, hletter, Bool.false_eq_true, if_false, if_true]
  all_goals simp at hc

lemma scan_keyword (h : keyword? (c :: s) = some token) (hs : s.all inWord)
    (hc : c = 'n' ∨ c = 't' ∨ c = 'f') (hrest : Delimited rest) :
    scan .between (c :: s ++ rest) = (scan .between rest).map (token :: ·) := by
  have hend := ends_keyword h rest hrest
  rw [List.reverse_cons] at hend
  rw [List.cons_append, scan_silent (step_keyword hc), scan_letters hs, hend]

/-! ### Values -/

mutual

lemma scan_compact (v : Json) (rest : Text) (hrest : Delimited rest) :
    scan .between (compact v ++ rest) = (scan .between rest).map (tokensOf v ++ ·) := by
  cases v with
  | null =>
    exact scan_keyword (c := 'n') (s := "ull".toList) rfl (by decide +kernel) (by simp) hrest
  | bool b =>
    cases b with
    | false =>
      exact scan_keyword (c := 'f') (s := "alse".toList) rfl (by decide +kernel) (by simp) hrest
    | true =>
      exact scan_keyword (c := 't') (s := "rue".toList) rfl (by decide +kernel) (by simp) hrest
  | number n => exact scan_numberText (numberText_render n) hrest
  | string s => exact scan_stringText s rest
  | array items =>
    have hopen : step .between '[' = some (.between, [.openBracket]) := rfl
    rw [compact, List.append_assoc, List.singleton_append, List.cons_append, scan_token hopen,
      scan_compactItems, tokensOf]
    simp [Function.comp_def]
  | object members =>
    have hopen : step .between '\x7b' = some (.between, [.openBrace]) := rfl
    rw [compact, List.append_assoc, List.singleton_append, List.cons_append, scan_token hopen,
      scan_compactMembers, tokensOf]
    simp [Function.comp_def]

lemma scan_compactItems (items : List Json) (rest : Text) :
    scan .between (compactItems items ++ ']' :: rest) =
      (scan .between rest).map (itemTokens items ++ .closeBracket :: ·) := by
  have hclose : step .between ']' = some (.between, [.closeBracket]) := rfl
  have hcomma : step .between ',' = some (.between, [.comma]) := rfl
  match items with
  | [] => exact scan_token hclose rest
  | [v] =>
    rw [compactItems, scan_compact v _ (.cons (.inr (.inl rfl)) _), scan_token hclose, itemTokens]
    simp [Function.comp_def]
  | v :: w :: items =>
    rw [compactItems_cons_cons, List.append_assoc, List.cons_append,
      scan_compact v _ (.cons (.inl rfl) _), scan_token hcomma, scan_compactItems (w :: items),
      itemTokens_cons_cons]
    simp [Function.comp_def]

lemma scan_compactMembers (members : List (Text × Json)) (rest : Text) :
    scan .between (compactMembers members ++ '\x7d' :: rest) =
      (scan .between rest).map (memberTokens members ++ .closeBrace :: ·) := by
  have hclose : step .between '\x7d' = some (.between, [.closeBrace]) := rfl
  have hcomma : step .between ',' = some (.between, [.comma]) := rfl
  have hcolon : step .between ':' = some (.between, [.colon]) := rfl
  match members with
  | [] => exact scan_token hclose rest
  | [(name, v)] =>
    rw [compactMembers, List.append_assoc, List.cons_append, scan_stringText, scan_token hcolon,
      scan_compact v _ (.cons (.inr (.inr rfl)) _), scan_token hclose, memberTokens]
    simp [Function.comp_def]
  | (name, v) :: m :: members =>
    rw [compactMembers_cons_cons, List.append_assoc, List.cons_append, List.append_assoc,
      List.cons_append, scan_stringText, scan_token hcolon,
      scan_compact v _ (.cons (.inl rfl) _), scan_token hcomma, scan_compactMembers (m :: members),
      memberTokens_cons_cons]
    simp [Function.comp_def]

end

end Token

/-! ### The tokens of a value, read -/

namespace Reader

variable {reader next : Reader} {token : Token} {stack : List Frame} {more : List Token}

lemma run_cons (h : step reader token = some next) (more : List Token) :
    run reader (token :: more) = run next more := by
  rw [run, List.foldlM_cons, h]
  rfl

lemma exists_tokensOf (v : Json) : ∃ token others, tokensOf v = token :: others ∧
    token ≠ .closeBracket ∧ token ≠ .comma := by
  cases v <;> exact ⟨_, _, rfl, by simp, by simp⟩

lemma run_item (items : List Json) (stack : List Frame) (v : Json) (more : List Token) :
    run (.item items stack) (tokensOf v ++ more) =
      run (.value (.array items :: stack)) (tokensOf v ++ more) := by
  obtain ⟨token, others, htokens, hclose, -⟩ := exists_tokensOf v
  have hstep : step (.item items stack) token = step (.value (.array items :: stack)) token := by
    cases token with
    | closeBracket => exact absurd rfl hclose
    | _ => rfl
  rw [htokens, List.cons_append, run, run, List.foldlM_cons, List.foldlM_cons, hstep]

mutual

lemma run_tokensOf (v : Json) (stack : List Frame) (more : List Token) :
    run (.value stack) (tokensOf v ++ more) = run (complete (reread v) stack) more := by
  cases v with
  | null => exact run_cons rfl more
  | bool b => exact run_cons rfl more
  | number n => exact run_cons rfl more
  | string s => exact run_cons rfl more
  | array items =>
    have hopen : step (.value stack) .openBracket = some (.item [] stack) := rfl
    rw [tokensOf, List.cons_append, List.append_assoc, List.singleton_append, run_cons hopen,
      run_itemTokens, reread]
    rfl
  | object members =>
    have hopen : step (.value stack) .openBrace = some (.member [] stack) := rfl
    rw [tokensOf, List.cons_append, List.append_assoc, List.singleton_append, run_cons hopen,
      run_memberTokens, reread]

lemma run_itemTokens (items read : List Json) (stack : List Frame) (more : List Token) :
    run (.item read stack) (itemTokens items ++ .closeBracket :: more) =
      run (complete (.array (read.reverse ++ rereadItems items)) stack) more := by
  match items with
  | [] =>
    rw [rereadItems, List.append_nil]
    exact run_cons rfl more
  | [v] =>
    have hclose : step (.afterItem (reread v :: read) stack) .closeBracket =
        some (complete (.array (reread v :: read).reverse) stack) := rfl
    rw [itemTokens, run_item, run_tokensOf, complete, run_cons hclose, List.reverse_cons]
    rfl
  | v :: w :: rest =>
    have hcomma : step (.afterItem (reread v :: read) stack) .comma =
        some (.item (reread v :: read) stack) := rfl
    rw [itemTokens_cons_cons, List.append_assoc, List.cons_append, run_item, run_tokensOf, complete,
      run_cons hcomma, run_itemTokens (w :: rest), List.reverse_cons, List.append_assoc]
    rfl

lemma run_memberTokens (members read : List (Text × Json)) (stack : List Frame)
    (more : List Token) :
    run (.member read stack) (memberTokens members ++ .closeBrace :: more) =
      run (complete (.object (rereadMembers read members)) stack) more := by
  match members with
  | [] => exact run_cons rfl more
  | [(name, v)] =>
    have hname : step (.member read stack) (.string name) = some (.colon read name stack) := rfl
    have hcolon : step (.colon read name stack) .colon =
        some (.value (.object read name :: stack)) := rfl
    have hclose : step (.afterMember (insert name (reread v) read) stack) .closeBrace =
        some (complete (.object (insert name (reread v) read)) stack) := rfl
    rw [memberTokens, List.cons_append, List.cons_append, run_cons hname, run_cons hcolon,
      run_tokensOf, complete, run_cons hclose]
    rfl
  | (name, v) :: m :: rest =>
    have hname : step (.member read stack) (.string name) = some (.colon read name stack) := rfl
    have hcolon : step (.colon read name stack) .colon =
        some (.value (.object read name :: stack)) := rfl
    have hcomma : step (.afterMember (insert name (reread v) read) stack) .comma =
        some (.member (insert name (reread v) read) stack) := rfl
    rw [memberTokens_cons_cons, List.cons_append, List.cons_append, List.append_assoc,
      List.cons_append, run_cons hname, run_cons hcolon, run_tokensOf, complete, run_cons hcomma,
      run_memberTokens (m :: rest)]
    rfl

end

end Reader

/-- **What was written is read**, up to the numbers and the order of members. -/
lemma read?_compact (v : Json) : read? (compact v) = some (some (reread v)) := by
  have htokens : tokens? (compact v) = some (tokensOf v) := by
    have hscan := Token.scan_compact v [] .nil
    rw [List.append_nil] at hscan
    rw [tokens?, hscan, Token.scan, Token.finish, Option.map_some, List.append_nil]
  have hrun : Reader.run (.value []) (tokensOf v) = some (.done (reread v)) := by
    have hread := Reader.run_tokensOf v [] []
    rw [List.append_nil] at hread
    rw [hread]
    rfl
  have hne : tokensOf v ≠ [] := by
    obtain ⟨token, others, h, -⟩ := Reader.exists_tokensOf v
    simp [h]
  simp [read?, htokens, hne, hrun]

end LatexReview.Json
