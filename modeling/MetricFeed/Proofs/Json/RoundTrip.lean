/-
MetricFeed/Proofs/Json/RoundTrip.lean

Reading a document inverts writing it.  The parts of a document are read off the front of a text,
so each part is followed here by any rest; a number alone needs a rest that cannot go on with it.

* `readString_renderString` : a string is read back, whatever characters it holds;
* `readValue_renderChars` : so is a document, and the rest is left;
* `read?_render` : the text of a document that can be written spells this document;
* `literalInteger?_toString` : an integer of 64 bits is read back from its literal.

Documents that can be written (`Json.Writable`) are those whose strings are texts and whose numbers
are literals; all that the writers of samples and identities make are.
-/
import MetricFeed.Json.Reader
import MetricFeed.Json.Writer

namespace MetricFeed.Json

open MetricFeed.Text (digitValue?)
open MetricFeed.Text.IntegerKind (i64 u64)

/-! ### Strings -/

/-- The two last digits of an escaped control character spell it. -/
theorem hexCode?_hexDigit :
    ∀ n < 0x20, hexCode? '0' '0' (hexDigit (n / 16)) (hexDigit (n % 16)) = some n := by
  decide

/-- A character that is not escaped is read as it stands. -/
theorem readCodes_cons {c : Char} (hquote : c ≠ '"') (hslash : c ≠ '\\')
    (hcontrol : ¬ c.toNat < 0x20) (rest : List Char) :
    readCodes (c :: rest) = (readCodes rest).map fun p => (c.toNat :: p.1, p.2) := by
  rw [readCodes.eq_def]
  split
  · rename_i h
    cases h
  · rename_i h
    exact absurd (List.cons.inj h).1 hquote
  · rename_i h
    exact absurd (List.cons.inj h).1 hslash
  · rename_i h
    exact absurd (List.cons.inj h).1 hslash
  · rename_i h
    obtain ⟨rfl, rfl⟩ := List.cons.inj h
    rw [if_neg (not_or.mpr ⟨hslash, hcontrol⟩)]

/-- What a character is written as is read as its code. -/
theorem readCodes_escapeChar (c : Char) (rest : List Char) :
    readCodes (escapeChar c ++ rest) = (readCodes rest).map fun p => (c.toNat :: p.1, p.2) := by
  unfold escapeChar
  split
  · subst_vars; rfl
  split
  · subst_vars; rfl
  split
  · subst_vars; rfl
  split
  · subst_vars; rfl
  split
  · subst_vars; rfl
  split
  · subst_vars; rfl
  split
  · subst_vars; rfl
  split
  · rename_i hcontrol
    show readCodes ('\\' :: 'u' :: '0' :: '0' :: hexDigit (c.toNat / 16) ::
      hexDigit (c.toNat % 16) :: rest) = _
    rw [readCodes, hexCode?_hexDigit c.toNat hcontrol]
  · rename_i hquote hslash _ _ _ _ _ hcontrol
    exact readCodes_cons hquote hslash hcontrol rest

theorem readCodes_flatMap (cs rest : List Char) :
    readCodes (cs.flatMap escapeChar ++ '"' :: rest) = some (cs.map Char.toNat, rest) := by
  induction cs with
  | nil => rfl
  | cons c cs ih =>
    rw [List.flatMap_cons, List.append_assoc, readCodes_escapeChar, ih]
    rfl

/-- No character is half of a surrogate pair. -/
theorem not_surrogate (c : Char) : isLead c.toNat = false ∧ isTrail c.toNat = false := by
  have hvalid : c.toNat < 0xD800 ∨ 0xDFFF < c.toNat ∧ c.toNat < 0x110000 := c.valid
  simp only [isLead, isTrail, Bool.and_eq_false_iff, decide_eq_false_iff_not]
  omega

theorem joinCodes?_map_toNat (cs : List Char) : joinCodes? (cs.map Char.toNat) = some cs := by
  induction cs with
  | nil => rfl
  | cons c rest ih =>
    obtain ⟨hlead, htrail⟩ := not_surrogate c
    rcases rest with _ | ⟨next, rest⟩
    · show joinCodes? [c.toNat] = some [c]
      rw [joinCodes?, hlead, htrail, Char.ofNat_toNat]
      rfl
    · show joinCodes? (c.toNat :: next.toNat :: rest.map Char.toNat) = some (c :: next :: rest)
      rw [joinCodes?, hlead, htrail, Char.ofNat_toNat]
      exact congrArg (Option.map (c :: ·)) ih

/-- **A string is read back**, from after its opening quote. -/
theorem readString_renderString (cs rest : List Char) :
    readString (cs.flatMap escapeChar ++ '"' :: rest) = some (some cs, rest) := by
  unfold readString
  rw [readCodes_flatMap]
  exact congrArg (fun text => some (text, rest)) (joinCodes?_map_toNat cs)

/-! ### Number literals -/

theorem isNumberChar_of_digit {c : Char} (h : (digitValue? c).isSome) : isNumberChar c = true := by
  simp [isNumberChar, h]

/-- Digits that are taken off the front are digits. -/
theorem takeDigits_spec (cs : List Char) :
    ∃ front, cs = front ++ (takeDigits cs).2 ∧ ∀ c ∈ front, isNumberChar c = true := by
  induction cs with
  | nil => exact ⟨[], rfl, fun _ h => absurd h List.not_mem_nil⟩
  | cons c rest ih =>
    obtain ⟨front, hfront, hdigits⟩ := ih
    rw [takeDigits]
    rcases hd : digitValue? c with _ | d
    · exact ⟨[], rfl, fun _ h => absurd h List.not_mem_nil⟩
    · refine ⟨c :: front, congrArg (c :: ·) hfront, ?_⟩
      rintro c' hc'
      rcases List.mem_cons.mp hc' with rfl | hc'
      · exact isNumberChar_of_digit (by rw [hd]; rfl)
      · exact hdigits c' hc'

/-- Nothing but the characters of numbers is in a text that has digits in front and these after. -/
theorem isNumberChar_of_takeDigits {cs : List Char}
    (h : ∀ c ∈ (takeDigits cs).2, isNumberChar c = true) : ∀ c ∈ cs, isNumberChar c = true := by
  obtain ⟨front, hfront, hdigits⟩ := takeDigits_spec cs
  intro c hc
  rw [hfront] at hc
  rcases List.mem_append.mp hc with hc | hc
  · exact hdigits c hc
  · exact h c hc

/-- The digits of an exponent reach to the end of the literal. -/
theorem isNumberChar_of_exponentDigits {negative : Bool} {ds : List Char}
    (h : (match takeDigits ds with
      | ([], _) => none
      | (digits, []) => some (some (negative, digits))
      | _ => (none : Option (Option (Bool × List Nat)))).isSome) :
    ∀ c ∈ ds, isNumberChar c = true := by
  apply isNumberChar_of_takeDigits
  rcases hd : takeDigits ds with ⟨_ | ⟨d, digits⟩, _ | ⟨a, after⟩⟩
  · exact fun _ h => absurd h List.not_mem_nil
  · rw [hd] at h
    cases h
  · exact fun _ h => absurd h List.not_mem_nil
  · rw [hd] at h
    cases h

theorem isNumberChar_of_readExponent? {cs : List Char} (h : (readExponent? cs).isSome) :
    ∀ c ∈ cs, isNumberChar c = true := by
  rcases cs with _ | ⟨c, rest⟩
  · exact fun _ h => absurd h List.not_mem_nil
  · -- a mark, perhaps a sign, and digits up to the end
    rw [readExponent?.eq_def] at h
    dsimp only at h
    split at h
    · rename_i hmark
      have hmark' : isNumberChar c = true := by
        rcases hmark with rfl | rfl <;> decide
      refine List.forall_mem_cons.mpr ⟨hmark', ?_⟩
      have hdigits := isNumberChar_of_exponentDigits h
      split at hdigits
      · exact List.forall_mem_cons.mpr ⟨by decide, hdigits⟩
      · exact List.forall_mem_cons.mpr ⟨by decide, hdigits⟩
      · exact hdigits
    · cases h

theorem isNumberChar_of_readFraction? {cs : List Char} (h : (readFraction? cs).isSome) :
    ∀ c ∈ cs, isNumberChar c = true := by
  rw [readFraction?.eq_def] at h
  split at h
  · rename_i rest
    refine List.forall_mem_cons.mpr ⟨by decide, isNumberChar_of_takeDigits ?_⟩
    rcases hd : takeDigits rest with ⟨_ | ⟨d, digits⟩, after⟩
    · rw [hd] at h
      cases h
    · rw [hd] at h
      exact isNumberChar_of_readExponent? (by simpa using h)
  · exact isNumberChar_of_readExponent? (by simpa using h)

/-- What is read as a number without its sign is made of the characters of numbers. -/
theorem isNumberChar_of_unsigned {negative : Bool} {ds : List Char}
    (h : (match takeDigits ds with
      | ([], _) => none
      | (0 :: _ :: _, _) => none
      | (whole, after) =>
        (readFraction? after).map fun (f, e) => (⟨negative, whole, f, e⟩ : Number)).isSome) :
    ∀ c ∈ ds, isNumberChar c = true := by
  apply isNumberChar_of_takeDigits
  split at h
  · cases h
  · cases h
  · rename_i whole after _ _ hd
    rw [hd]
    exact isNumberChar_of_readFraction? (by simpa using h)

/-- A literal is made of the characters of numbers. -/
theorem isNumberChar_of_ofLiteral? {cs : List Char} (h : (Number.ofLiteral? cs).isSome) :
    ∀ c ∈ cs, isNumberChar c = true := by
  unfold Number.ofLiteral? at h
  split at h
  · rename_i hcs
    split at hcs
    · cases hcs
      exact List.forall_mem_cons.mpr ⟨by decide, isNumberChar_of_unsigned h⟩
    · cases hcs
      exact isNumberChar_of_unsigned h

/-! ### Documents -/

mutual

/-- Strings are texts, and numbers are literals. -/
def Writable : Json → Prop
  | .null | .bool _ => True
  | .number literal => (Number.ofLiteral? literal).isSome
  | .string text => text.isSome
  | .array items => AllWritable items
  | .object members => MembersWritable members
termination_by structural j => j

def AllWritable : List Json → Prop
  | [] => True
  | item :: rest => Writable item ∧ AllWritable rest
termination_by structural l => l

def MembersWritable : List (Option (List Char) × Json) → Prop
  | [] => True
  | member :: rest => MemberWritable member ∧ MembersWritable rest
termination_by structural l => l

def MemberWritable : Option (List Char) × Json → Prop
  | (key, value) => key.isSome ∧ Writable value
termination_by structural m => m

end

/-- A rest with which a number cannot go on. -/
def Ends (rest : List Char) : Prop :=
  ∀ c ∈ rest.head?, isNumberChar c = false

theorem ends_nil : Ends [] := fun _ h => nomatch h

theorem ends_cons {c : Char} (h : isNumberChar c = false) (rest : List Char) :
    Ends (c :: rest) := by
  rintro _ ⟨⟩
  exact h

theorem skipBlanks_cons {c : Char} (h : isJsonBlank c = false) (rest : List Char) :
    skipBlanks (c :: rest) = c :: rest := by
  unfold skipBlanks
  rw [List.dropWhile_cons, if_neg (Bool.eq_false_iff.mp h)]

theorem takeWhile_literal {literal rest : List Char}
    (h : ∀ c ∈ literal, isNumberChar c = true) (hrest : Ends rest) :
    (literal ++ rest).takeWhile isNumberChar = literal ∧
      (literal ++ rest).dropWhile isNumberChar = rest := by
  have hstop : rest.takeWhile isNumberChar = [] ∧ rest.dropWhile isNumberChar = rest := by
    rcases rest with _ | ⟨c, rest⟩
    · exact ⟨rfl, rfl⟩
    · have hc : ¬ isNumberChar c = true := Bool.eq_false_iff.mp (hrest c rfl)
      rw [List.takeWhile_cons, List.dropWhile_cons, if_neg hc, if_neg hc]
      exact ⟨rfl, rfl⟩
  rw [List.takeWhile_append_of_pos h, List.dropWhile_append_of_pos h, hstop.1, hstop.2,
    List.append_nil]
  exact ⟨rfl, rfl⟩

/-- A character of a number begins no other token. -/
theorem ne_of_isNumberChar {c d : Char} (hc : isNumberChar c = true)
    (hd : isNumberChar d = false) : c ≠ d := by
  rintro rfl
  rw [hc] at hd
  cases hd

theorem isJsonBlank_of_isNumberChar {c : Char} (h : isNumberChar c = true) :
    isJsonBlank c = false := by
  have hblank : ∀ d, isNumberChar d = false → (c == d) = false :=
    fun d hd => beq_false_of_ne (ne_of_isNumberChar h hd)
  simp only [isJsonBlank, hblank ' ' (by decide), hblank '\n' (by decide),
    hblank '\t' (by decide), hblank '\r' (by decide), Bool.or_self]

/-- A literal is read as the number that it is. -/
theorem readValue_literal {literal : List Char} (h : (Number.ofLiteral? literal).isSome)
    (fuel : Nat) {rest : List Char} (hrest : Ends rest) :
    readValue (fuel + 1) (literal ++ rest) = some (.number literal, rest) := by
  have hchars := isNumberChar_of_ofLiteral? h
  obtain ⟨htake, hdrop⟩ := takeWhile_literal hchars hrest
  rcases literal with _ | ⟨c, literal⟩
  · cases h
  · have hc : isNumberChar c = true := hchars c List.mem_cons_self
    obtain ⟨n, hn⟩ := Option.isSome_iff_exists.mp h
    have hother : ∀ d, isNumberChar d = false → ¬ c = d := fun d => ne_of_isNumberChar hc
    rw [List.cons_append] at htake hdrop ⊢
    rw [readValue, skipBlanks_cons (isJsonBlank_of_isNumberChar hc)]
    dsimp only
    rw [if_neg (hother _ (by decide)), if_neg (hother _ (by decide)),
      if_neg (hother _ (by decide)), if_neg (hother _ (by decide)),
      if_neg (hother _ (by decide)), if_neg (hother _ (by decide)), htake, hdrop, hn]

/-- The first character of a document is no blank and closes nothing. -/
theorem renderChars_head (j : Json) (h : j.Writable) :
    ∃ c cs, renderChars j = c :: cs ∧ isJsonBlank c = false ∧ c ≠ ']' := by
  rcases j with _ | (_ | _) | literal | text | items | members
  · exact ⟨_, _, rfl, by decide, by decide⟩
  · exact ⟨_, _, rfl, by decide, by decide⟩
  · exact ⟨_, _, rfl, by decide, by decide⟩
  · rcases literal with _ | ⟨c, literal⟩
    · cases h
    · have hc : isNumberChar c = true := isNumberChar_of_ofLiteral? h c List.mem_cons_self
      exact ⟨c, literal, rfl, isJsonBlank_of_isNumberChar hc, ne_of_isNumberChar hc (by decide)⟩
  · exact ⟨_, _, rfl, by decide, by decide⟩
  · exact ⟨_, _, rfl, by decide, by decide⟩
  · exact ⟨_, _, rfl, by decide, by decide⟩

/-- The items of an array are read one after the other. -/
theorem readItems_succ {fuel : Nat} {cs after : List Char} {item : Json}
    (h : readValue fuel cs = some (item, after)) :
    readItems (fuel + 1) cs =
      match skipBlanks after with
      | ']' :: rest => some ([item], rest)
      | ',' :: rest => (readItems fuel rest).map fun p => (item :: p.1, p.2)
      | _ => none := by
  rewrite [readItems, h]
  rfl

/-- The members of an object are read one after the other. -/
theorem readMembers_succ {fuel : Nat} {key valueText after : List Char} {value : Json}
    (h : readValue fuel valueText = some (value, after)) :
    readMembers (fuel + 1) (renderString key ++ ':' :: valueText) =
      match skipBlanks after with
      | '\x7d' :: rest => some ([(some key, value)], rest)
      | ',' :: rest => (readMembers fuel rest).map fun p => ((some key, value) :: p.1, p.2)
      | _ => none := by
  have hkey : readString (key.flatMap escapeChar ++ '"' :: ':' :: valueText) =
      some (some key, ':' :: valueText) := readString_renderString key _
  have htext : renderString key ++ ':' :: valueText =
      '"' :: (key.flatMap escapeChar ++ '"' :: ':' :: valueText) := by
    simp [renderString]
  have hquote : isJsonBlank '"' = false := by decide
  have hcolon : isJsonBlank ':' = false := by decide
  rewrite [readMembers, htext]
  simp only [skipBlanks_cons hquote, hkey, skipBlanks_cons hcolon]
  rewrite [h]
  rfl

/-- An array that is not empty is read by its items. -/
theorem readValue_items {fuel : Nat} {c : Char} {cs : List Char} (hblank : isJsonBlank c = false)
    (hclose : c ≠ ']') :
    readValue (fuel + 1) ('[' :: c :: cs) =
      (readItems fuel (c :: cs)).map fun p => (.array p.1, p.2) := by
  rw [readValue, skipBlanks_cons (by decide)]
  dsimp only
  rw [if_neg (by decide), if_pos rfl, skipBlanks_cons hblank]
  split
  · rename_i h
    exact absurd (List.cons.inj h).1 hclose
  · rfl

/-- An object that is not empty is read by its members. -/
theorem readValue_members {fuel : Nat} {cs : List Char} :
    readValue (fuel + 1) ('\x7b' :: '"' :: cs) =
      (readMembers fuel ('"' :: cs)).map fun p => (.object p.1, p.2) := by
  rw [readValue, skipBlanks_cons (by decide)]
  dsimp only
  rw [if_neg (by decide), if_neg (by decide), if_pos rfl, skipBlanks_cons (by decide)]
  rfl

/-- The first character of the items of an array is no blank and does not close it. -/
theorem renderItems_head (item : Json) (tail : List Json) (h : AllWritable (item :: tail)) :
    ∃ c cs, renderItems (item :: tail) = c :: cs ∧ isJsonBlank c = false ∧ c ≠ ']' := by
  obtain ⟨c, cs, hhead, hblank, hclose⟩ := renderChars_head item h.1
  rcases tail with _ | ⟨next, tail⟩
  · exact ⟨c, cs, hhead, hblank, hclose⟩
  · refine ⟨c, cs ++ ',' :: renderItems (next :: tail), ?_, hblank, hclose⟩
    rw [renderItems, hhead]
    rfl

/-- The members of an object begin with the quote of their first key. -/
theorem renderMembers_head (member : Option (List Char) × Json)
    (tail : List (Option (List Char) × Json)) :
    ∃ cs, renderMembers (member :: tail) = '"' :: cs := by
  obtain ⟨key, value⟩ := member
  rcases tail with _ | ⟨next, tail⟩
  · exact ⟨_, rfl⟩
  · exact ⟨_, rfl⟩

mutual

/-- **A document is read back from its text**, and what follows is left. -/
theorem readValue_renderChars : (j : Json) → j.Writable → ∀ (fuel : Nat) (rest : List Char),
    (renderChars j).length ≤ fuel → Ends rest →
    readValue fuel (renderChars j ++ rest) = some (j, rest)
  | .null, _, 0, _, hfuel, _ => nomatch hfuel
  | .null, _, fuel + 1, rest, _, _ => rfl
  | .bool true, _, 0, _, hfuel, _ => nomatch hfuel
  | .bool true, _, fuel + 1, rest, _, _ => rfl
  | .bool false, _, 0, _, hfuel, _ => nomatch hfuel
  | .bool false, _, fuel + 1, rest, _, _ => rfl
  | .number [], h, _, _, _, _ => nomatch h
  | .number (_ :: _), _, 0, _, hfuel, _ => nomatch hfuel
  | .number (_ :: _), h, fuel + 1, _, _, hrest => readValue_literal h fuel hrest
  | .string none, h, _, _, _, _ => nomatch h
  | .string (some _), _, 0, _, hfuel, _ => nomatch hfuel
  | .string (some cs), _, fuel + 1, rest, _, _ => by
    have htext : renderChars (.string (some cs)) ++ rest =
        '"' :: (cs.flatMap escapeChar ++ '"' :: rest) := by
      simp [renderChars, renderString]
    rw [htext, readValue, skipBlanks_cons (by decide)]
    dsimp only
    rw [if_pos rfl, readString_renderString]
    rfl
  | .array [], _, 0, _, hfuel, _ => nomatch hfuel
  | .array [], _, fuel + 1, rest, _, _ => rfl
  | .array (_ :: _), _, 0, _, hfuel, _ => nomatch hfuel
  | .array (item :: tail), h, fuel + 1, rest, hfuel, _ => by
    have hlength : (renderItems (item :: tail)).length < fuel := by
      simp [renderChars] at hfuel
      omega
    have hitems := readItems_renderItems (item :: tail) (List.cons_ne_nil _ _) h fuel rest hlength
    obtain ⟨c, cs, hhead, hblank, hclose⟩ := renderItems_head item tail h
    have htext : renderChars (.array (item :: tail)) ++ rest =
        '[' :: (renderItems (item :: tail) ++ ']' :: rest) := by
      simp [renderChars]
    rw [htext]
    rw [hhead] at hitems ⊢
    rw [List.cons_append] at hitems ⊢
    rw [readValue_items hblank hclose, hitems]
    rfl
  | .object [], _, 0, _, hfuel, _ => nomatch hfuel
  | .object [], _, fuel + 1, rest, _, _ => rfl
  | .object (_ :: _), _, 0, _, hfuel, _ => nomatch hfuel
  | .object (member :: tail), h, fuel + 1, rest, hfuel, _ => by
    have hlength : (renderMembers (member :: tail)).length < fuel := by
      simp [renderChars] at hfuel
      omega
    have hmembers := readMembers_renderMembers (member :: tail) (List.cons_ne_nil _ _) h
      fuel rest hlength
    obtain ⟨cs, hhead⟩ := renderMembers_head member tail
    have htext : renderChars (.object (member :: tail)) ++ rest =
        '\x7b' :: (renderMembers (member :: tail) ++ '\x7d' :: rest) := by
      simp [renderChars]
    rw [htext]
    rw [hhead] at hmembers ⊢
    rw [List.cons_append] at hmembers ⊢
    rw [readValue_members, hmembers]
    rfl
termination_by structural j => j

theorem readItems_renderItems : (items : List Json) → items ≠ [] → AllWritable items →
    ∀ (fuel : Nat) (rest : List Char), (renderItems items).length < fuel →
    readItems fuel (renderItems items ++ ']' :: rest) = some (items, rest)
  | [], hne, _, _, _, _ => absurd rfl hne
  | _, _, _, 0, _, hfuel => nomatch hfuel
  | [item], _, h, fuel + 1, rest, hfuel => by
    have hitem := readValue_renderChars item h.1 fuel (']' :: rest) (Nat.le_of_lt_succ hfuel)
      (ends_cons (by decide) rest)
    rw [renderItems, readItems_succ hitem, skipBlanks_cons (by decide)]
    rfl
  | item :: next :: tail, _, h, fuel + 1, rest, hfuel => by
    rw [renderItems, List.length_append, List.length_cons] at hfuel
    have hitem := readValue_renderChars item h.1 fuel
      (',' :: (renderItems (next :: tail) ++ ']' :: rest)) (by omega) (ends_cons (by decide) _)
    have htail := readItems_renderItems (next :: tail) (List.cons_ne_nil _ _) h.2 fuel rest
      (by omega)
    rw [renderItems, List.append_assoc, List.cons_append, readItems_succ hitem,
      skipBlanks_cons (by decide)]
    show (readItems fuel (renderItems (next :: tail) ++ ']' :: rest)).map _ = _
    rw [htail]
    rfl
termination_by structural l => l

theorem readMembers_renderMembers : (members : List (Option (List Char) × Json)) →
    members ≠ [] → MembersWritable members → ∀ (fuel : Nat) (rest : List Char),
    (renderMembers members).length < fuel →
    readMembers fuel (renderMembers members ++ '\x7d' :: rest) = some (members, rest)
  | [], hne, _, _, _, _ => absurd rfl hne
  | _, _, _, 0, _, hfuel => nomatch hfuel
  | [member], _, h, fuel + 1, rest, hfuel => by
    rw [renderMembers, readMembers_renderMember member h.1 fuel _
      (Nat.le_of_lt_succ hfuel) (ends_cons (by decide) rest), skipBlanks_cons (by decide)]
    rfl
  | member :: next :: tail, _, h, fuel + 1, rest, hfuel => by
    rw [renderMembers, List.length_append, List.length_cons] at hfuel
    have htail := readMembers_renderMembers (next :: tail) (List.cons_ne_nil _ _) h.2
      fuel rest (by omega)
    rw [renderMembers, List.append_assoc, List.cons_append,
      readMembers_renderMember member h.1 fuel _ (by omega) (ends_cons (by decide) _),
      skipBlanks_cons (by decide)]
    show (readMembers fuel (renderMembers (next :: tail) ++ '\x7d' :: rest)).map _ = _
    rw [htail]
    rfl
termination_by structural l => l

theorem readMembers_renderMember : (member : Option (List Char) × Json) → MemberWritable member →
    ∀ (fuel : Nat) (after : List Char), (renderMember member).length ≤ fuel → Ends after →
    readMembers (fuel + 1) (renderMember member ++ after) =
      match skipBlanks after with
      | '\x7d' :: rest => some ([member], rest)
      | ',' :: rest => (readMembers fuel rest).map fun p => (member :: p.1, p.2)
      | _ => none
  | (none, _), h, _, _, _, _ => nomatch h.1
  | (some key, value), h, fuel, after, hfuel, hafter => by
    rw [renderMember, List.length_append, List.length_cons] at hfuel
    have hvalue := readValue_renderChars value h.2 fuel after (by omega) hafter
    rw [renderMember, List.append_assoc, List.cons_append]
    exact readMembers_succ hvalue
termination_by structural m => m

end

/-- The text of a document that can be written spells this document. -/
theorem read?_render {j : Json} (h : j.Writable) : read? j.render = some j := by
  have hread := readValue_renderChars j h (2 * (renderChars j).length + 1) [] (by omega) ends_nil
  rw [List.append_nil] at hread
  unfold read? readChars? render
  rw [String.toList_ofList, hread]
  rfl

/-! ### Integers -/

theorem digitValue?_digitChar : ∀ d < 10, digitValue? (Nat.digitChar d) = some d := by
  decide

/-- Digits are taken off the front of a text up to where it goes on with none. -/
theorem takeDigits_digitChars {ds : List Nat} (hds : ∀ d ∈ ds, d < 10) {after : List Char}
    (hafter : takeDigits after = ([], after)) :
    takeDigits (ds.map Nat.digitChar ++ after) = (ds, after) := by
  induction ds with
  | nil => exact hafter
  | cons d ds ih =>
    obtain ⟨hd, hrest⟩ := List.forall_mem_cons.mp hds
    rw [List.map_cons, List.cons_append, takeDigits, digitValue?_digitChar d hd, ih hrest]

theorem digitsValue_append_digit (ds : List Nat) (d : Nat) :
    digitsValue (ds ++ [d]) = digitsValue ds * 10 + d :=
  List.foldl_append

/-- The decimal digits of a number spell it, and begin with no zero unless they are a zero. -/
theorem toDigits_eq_map (n : Nat) :
    ∃ d ds, Nat.toDigits 10 n = (d :: ds).map Nat.digitChar ∧ (∀ e ∈ d :: ds, e < 10) ∧
      digitsValue (d :: ds) = n ∧ (d = 0 → ds = []) := by
  induction n using Nat.strongRecOn with
  | ind n ih =>
    by_cases hn : n < 10
    · refine ⟨n, [], Nat.toDigits_of_lt_base hn, ?_, by simp [digitsValue], fun _ => rfl⟩
      exact List.forall_mem_singleton.mpr hn
    · obtain ⟨d, ds, hdigits, hten, hvalue, hzero⟩ := ih (n / 10) (by omega)
      have hlast : n % 10 < 10 := Nat.mod_lt n (by decide)
      refine ⟨d, ds ++ [n % 10], ?_, ?_, ?_, fun hd => ?_⟩
      · rw [Nat.toDigits_of_base_le (by decide) (Nat.not_lt.mp hn), hdigits, ← List.cons_append,
          List.map_append]
        rfl
      · rw [← List.cons_append]
        exact List.forall_mem_append.mpr ⟨hten, List.forall_mem_singleton.mpr hlast⟩
      · have happend := digitsValue_append_digit (d :: ds) (n % 10)
        rw [hvalue] at happend
        rw [← List.cons_append, happend]
        omega
      · -- a zero in front would make the quotient zero
        rw [hd, hzero hd] at hvalue
        have hquotient : (0 : Nat) = n / 10 := hvalue
        omega

/-- Digits that begin with no zero, unless they are a zero, stand before the point. -/
theorem ofLiteral?_unsigned {cs after : List Char} {d : Nat} {ds : List Nat} (negative : Bool)
    (htake : takeDigits cs = (d :: ds, after)) (hzero : d = 0 → ds = []) :
    (match takeDigits cs with
      | ([], _) => none
      | (0 :: _ :: _, _) => none
      | (whole, after) =>
        (readFraction? after).map fun (f, e) => (⟨negative, whole, f, e⟩ : Number)) =
      (readFraction? after).map fun p => ⟨negative, d :: ds, p.1, p.2⟩ := by
  rw [htake]
  rcases d with _ | d
  · rw [hzero rfl]
    rfl
  · rfl

/-- A literal is read from its digits before the point on, with or without a minus sign. -/
theorem ofLiteral?_takeDigits {cs after : List Char} {d : Nat} {ds : List Nat}
    (htake : takeDigits cs = (d :: ds, after)) (hzero : d = 0 → ds = []) :
    Number.ofLiteral? cs = (readFraction? after).map (fun p => ⟨false, d :: ds, p.1, p.2⟩) ∧
      Number.ofLiteral? ('-' :: cs) =
        (readFraction? after).map fun p => ⟨true, d :: ds, p.1, p.2⟩ := by
  refine ⟨?_, ofLiteral?_unsigned true htake hzero⟩
  unfold Number.ofLiteral?
  split
  rename_i negative unsigned hsign
  split at hsign
  · -- the first digit is no sign
    cases htake
  · obtain ⟨rfl, rfl⟩ := Prod.mk.inj hsign
    exact ofLiteral?_unsigned false htake hzero

/-- The number that decimal digits are read as. -/
theorem ofLiteral?_toDigits (n : Nat) :
    ∃ whole, digitsValue whole = n ∧
      Number.ofLiteral? (Nat.toDigits 10 n) = some ⟨false, whole, none, none⟩ ∧
      Number.ofLiteral? ('-' :: Nat.toDigits 10 n) = some ⟨true, whole, none, none⟩ := by
  obtain ⟨d, ds, hdigits, hten, hvalue, hzero⟩ := toDigits_eq_map n
  have htake : takeDigits (Nat.toDigits 10 n) = (d :: ds, []) := by
    have hall : takeDigits ((d :: ds).map Nat.digitChar ++ []) = (d :: ds, []) :=
      takeDigits_digitChars hten rfl
    rw [List.append_nil, ← hdigits] at hall
    exact hall
  obtain ⟨hplain, hminus⟩ := ofLiteral?_takeDigits htake hzero
  exact ⟨d :: ds, hvalue, hplain, hminus⟩

theorem toList_toString_negSucc (m : Nat) :
    (toString (Int.negSucc m)).toList = '-' :: Nat.toDigits 10 (m + 1) := by
  rw [Int.toString_eq_repr]
  show ("-" ++ Nat.repr (m + 1)).toList = _
  rw [String.toList_append, Nat.toList_repr]
  rfl

theorem toList_toString_ofNat (m : Nat) :
    (toString (Int.ofNat m)).toList = Nat.toDigits 10 m := by
  rw [Int.toString_eq_repr]
  exact Nat.toList_repr

/-- An integer of 64 bits is read back from its literal. -/
theorem literalInteger?_toString {n : Int} (hleast : i64.least ≤ n) (hgreatest : n ≤ u64.greatest) :
    literalInteger? (toString n).toList = some n := by
  unfold literalInteger?
  cases n with
  | ofNat m =>
    obtain ⟨whole, hvalue, hread, -⟩ := ofLiteral?_toDigits m
    rw [toList_toString_ofNat, hread, Option.bind_some]
    rw [Int.ofNat_eq_natCast] at hgreatest ⊢
    simp only [Number.integer?, hvalue, hgreatest, if_true, Bool.false_eq_true, if_false]
  | negSucc m =>
    obtain ⟨whole, hvalue, -, hread⟩ := ofLiteral?_toDigits (m + 1)
    rw [toList_toString_negSucc, hread, Option.bind_some]
    have hpos : (0 : Int) < ((m + 1 : Nat) : Int) := by omega
    have hneg : Int.negSucc m = -((m + 1 : Nat) : Int) := rfl
    rw [hneg] at hleast ⊢
    simp only [Number.integer?, hvalue, hpos, hleast, and_self, if_true]

/-- The literal of an integer is one, however large the integer. -/
theorem isSome_ofLiteral?_toString (n : Int) : (Number.ofLiteral? (toString n).toList).isSome := by
  cases n with
  | ofNat m =>
    obtain ⟨whole, -, hread, -⟩ := ofLiteral?_toDigits m
    rw [toList_toString_ofNat, hread]
    rfl
  | negSucc m =>
    obtain ⟨whole, -, -, hread⟩ := ofLiteral?_toDigits (m + 1)
    rw [toList_toString_negSucc, hread]
    rfl

end MetricFeed.Json
