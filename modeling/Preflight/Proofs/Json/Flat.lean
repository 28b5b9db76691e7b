import Preflight.Json.Read
import Preflight.Json.Write

/-!
# Reading back a written record

A record whose fields each hold a text or nothing is written, indented, as an object whose
members hold quoted texts or `null` (`flatEntries`). Reading that text gives the record back
(`parse_write_flat`), blanks after it allowed, as long as no two fields share a name.

The reader walks the document by positions. The lemmas of `Reader` say what it does at a
position from which the document holds given characters (`r.doc.toList.drop i = ...`):
a quoted text reads back as the text whatever characters it holds (`readText_escaped`), one
escape at a time (`readText_escapeChar`), and the members of the object are read one by one
(`readMembers_flat`).
-/

set_option autoImplicit false

namespace Preflight.Json

/-! ## What a record is written as -/

/-- The members of a record whose fields hold a text or nothing. -/
def flatEntries (fs : List (String × Option String)) : Entries :=
  fs.map fun f => (.str f.1, f.2.elim .null .str)

/-- The text a field's value is written as. -/
def fieldText : Option String → String
  | none => "null"
  | some s => quote s

/-- The members of a record as written, indented one level. -/
abbrev membersText (fs : List (String × Option String)) : String :=
  renderMembers Layout.indented 1 (prepareEntries false (flatEntries fs))

theorem sortKeys_indented : Layout.indented.sortKeys = false := rfl

theorem comma_indented : Layout.indented.comma = "," := rfl

theorem breakAt_indented (d : Nat) :
    breakAt Layout.indented d = "\n" ++ String.ofList (List.replicate (2 * d) ' ') := rfl

theorem renderMember_flat (f : String × Option String) :
    renderMember Layout.indented 1 (prepareEntry false (.str f.1, f.2.elim .null .str)) =
      quote f.1 ++ ": " ++ fieldText f.2 := by
  rcases f with ⟨k, _ | s⟩ <;> simp [renderMember, prepareEntry, prepare, keyName, renderDoc, fieldText]

theorem membersText_cons (f g : String × Option String) (fs : List (String × Option String)) :
    (membersText (f :: g :: fs)).toList =
      (quote f.1).toList ++ (':' :: ' ' :: ((fieldText f.2).toList ++
        ',' :: '\n' :: ' ' :: ' ' :: (membersText (g :: fs)).toList)) := by
  simp [membersText, flatEntries, prepareEntries, renderMembers, renderMember_flat, comma_indented,
    breakAt_indented]

theorem membersText_single (f : String × Option String) :
    (membersText [f]).toList = (quote f.1).toList ++ (':' :: ' ' :: (fieldText f.2).toList) := by
  simp [membersText, flatEntries, prepareEntries, renderMembers, renderMember_flat]

theorem write_flat {fs : List (String × Option String)} (h : fs ≠ []) :
    (write .indented (.dict (flatEntries fs))).toList =
      '{' :: '\n' :: ' ' :: ' ' :: (membersText fs).toList ++ ['\n', '}'] := by
  obtain ⟨f, fs, rfl⟩ := List.exists_cons_of_ne_nil h
  simp [write, prepare, membersText, flatEntries, prepareEntries, renderDoc, breakAt_indented,
    sortKeys_indented]

/-- The characters between the quotes of a quoted text. -/
def escaped (s : String) : List Char := s.toList.flatMap fun c => (escapeChar c).toList

theorem quote_toList (s : String) : (quote s).toList = '"' :: escaped s ++ ['"'] := by
  simp [quote, escaped, String.toList_join, List.flatMap_map]

theorem escapeChar_ne_nil (c : Char) : (escapeChar c).toList ≠ [] := by
  unfold escapeChar
  repeat' split
  all_goals simp

theorem hexPad_four {n : Nat} (h : n < 256) :
    (hexPad 4 n).toList = ['0', '0', Nat.digitChar (n / 16), Nat.digitChar (n % 16)] := by
  unfold hexPad
  by_cases h16 : n < 16
  · rw [Nat.toDigits_of_lt_base h16]
    simp [Nat.div_eq_of_lt h16, Nat.mod_eq_of_lt h16]
  · rw [Nat.toDigits_of_base_le (by decide) (by omega), Nat.toDigits_of_lt_base (by omega : n / 16 < 16)]
    simp

/-- The code points of a text are those of a text, with no surrogate among them. -/
theorem ofPoints_toNat (s : String) : Value.ofPoints (s.toList.map Char.toNat) = .str s := by
  have hv : ∀ c : Char, Value.isSurrogate c.toNat = false := by
    intro c
    have : c.toNat < 0xD800 ∨ (0xDFFF < c.toNat ∧ c.toNat < 0x110000) := c.valid
    simp [Value.isSurrogate]
    omega
  have hid : (Char.ofNat ∘ Char.toNat) = id := funext Char.ofNat_toNat
  simp [Value.ofPoints, hv, List.map_map, hid]

/-- Adding a field of a new name to a record's members puts it last. -/
theorem insert_flatEntries {pre : List (String × Option String)} {f : String × Option String}
    (hf : f.1 ∉ pre.map (·.1)) :
    Entries.insert (flatEntries pre) (.str f.1) (f.2.elim .null .str) = flatEntries (pre ++ [f]) := by
  have hc : Entries.contains (flatEntries pre) (.str f.1) = false := by
    simp only [Entries.contains, flatEntries, List.any_map, List.any_eq_false, Function.comp,
      Value.sameKey, beq_iff_eq]
    intro g hg hgf
    exact hf (List.mem_map.2 ⟨g, hg, hgf⟩)
  rw [Entries.insert, if_neg (by rw [hc]; decide)]
  simp [flatEntries]

/-! ## Reading at a position -/

namespace Reader

variable {r : Reader}

theorem at?_of_drop {i : Nat} {c : Char} {rest : List Char} (h : r.doc.toList.drop i = c :: rest) :
    r.at? i = some c := by
  have := congrArg List.head? h
  rw [List.head?_drop] at this
  simpa [at?] using this

theorem at?_of_drop_nil {i : Nat} (h : r.doc.toList.drop i = []) : r.at? i = none := by
  have := congrArg List.head? h
  rw [List.head?_drop] at this
  simpa [at?] using this

theorem isAt_of_drop {i : Nat} {c : Char} {rest : List Char} (h : r.doc.toList.drop i = c :: rest)
    (c' : Char) : r.isAt i c' = (c == c') := by
  simp [isAt, at?_of_drop h]

theorem drop_succ_of_drop {i : Nat} {c : Char} {rest : List Char} (h : r.doc.toList.drop i = c :: rest) :
    r.doc.toList.drop (i + 1) = rest := by
  rw [← List.drop_drop, h]
  rfl

theorem drop_add_of_drop {i : Nat} {l rest : List Char} (h : r.doc.toList.drop i = l ++ rest) :
    r.doc.toList.drop (i + l.length) = rest := by
  rw [← List.drop_drop, h, List.drop_left]

theorem length_of_drop {i : Nat} {l rest : List Char} {c : Char} (h : r.doc.toList.drop i = l ++ c :: rest) :
    i + l.length + rest.length + 1 = r.doc.size := by
  have := congrArg List.length h
  simp at this
  omega

theorem length_le_of_drop {i : Nat} {l rest : List Char} (h : r.doc.toList.drop i = l ++ rest) :
    l.length ≤ r.doc.size := by
  have := congrArg List.length h
  simp at this
  omega

theorem skipGap_go_of_drop : ∀ (gaps : List Char) (j fuel : Nat) (rest : List Char),
    r.doc.toList.drop j = gaps ++ rest → (∀ c ∈ gaps, isGap c = true) →
    (∀ c ∈ rest.head?, isGap c = false) → gaps.length < fuel →
    skipGap.go r j fuel = j + gaps.length
  | _, _, 0, _, _, _, _, hlen => absurd hlen (Nat.not_lt_zero _)
  | [], j, fuel + 1, rest, h, _, hr, _ => by
    unfold skipGap.go
    cases rest with
    | nil =>
      rw [at?_of_drop_nil (by simpa using h)]
      rfl
    | cons c rest =>
      rw [at?_of_drop h]
      simp [hr c rfl]
  | g :: gaps, j, fuel + 1, rest, h, hg, hr, hlen => by
    unfold skipGap.go
    rw [at?_of_drop h]
    simp only [hg g (List.mem_cons_self ..), if_true]
    rw [skipGap_go_of_drop gaps (j + 1) fuel rest (drop_succ_of_drop h)
      (fun c hc => hg c (List.mem_cons_of_mem g hc)) hr (by simp at hlen; omega)]
    simp
    omega

/-- Skipping blanks stops at the first character that is not one. -/
theorem skipGap_of_drop {i : Nat} (gaps : List Char) {rest : List Char}
    (h : r.doc.toList.drop i = gaps ++ rest)
    (hg : ∀ c ∈ gaps, isGap c = true) (hr : ∀ c ∈ rest.head?, isGap c = false) :
    r.skipGap i = i + gaps.length :=
  skipGap_go_of_drop gaps i _ rest h hg hr (by have := length_le_of_drop h; omega)

/-- Where no blank stands, skipping blanks stays put. -/
theorem skipGap_of_not_gap {i : Nat} {c : Char} {rest : List Char} (h : r.doc.toList.drop i = c :: rest)
    (hc : isGap c = false) : r.skipGap i = i :=
  skipGap_of_drop [] h (by simp) (by simpa using hc)

/-! ## Quoted texts -/

theorem hexValue_digitChar : ∀ d, d < 16 → hexValue? (Nat.digitChar d) = some d := by decide

theorem hex4?_of_drop {i n : Nat} {rest : List Char} (hn : n < 256)
    (h : r.doc.toList.drop i = ['0', '0', Nat.digitChar (n / 16), Nat.digitChar (n % 16)] ++ rest) :
    r.hex4? i = some n := by
  have h1 := drop_succ_of_drop h
  have h2 := drop_succ_of_drop h1
  have h3 := drop_succ_of_drop h2
  simp only [hex4?, List.foldl, Nat.add_zero, at?_of_drop h, at?_of_drop h1, at?_of_drop h2,
    at?_of_drop h3, Option.bind_some, hexValue_digitChar (n / 16) (by omega),
    hexValue_digitChar (n % 16) (by omega), show hexValue? '0' = some 0 from rfl]
  congr 1
  omega

/-- One escaped character of a quoted text reads as that character, when more characters
follow it. -/
theorem readText_escapeChar (hlone : r.lone = []) {begin i : Nat} {acc : List Nat} {fuel : Nat}
    {c : Char} {rest : List Char} (h : r.doc.toList.drop i = (escapeChar c).toList ++ rest)
    (hrest : rest ≠ []) :
    r.readText begin i acc (fuel + 1) =
      r.readText begin (i + (escapeChar c).toList.length) (c.toNat :: acc) fuel := by
  by_cases hq : c = '"' ∨ c = '\\' ∨ c = '\n' ∨ c = '\r' ∨ c = '\t' ∨ c = Char.ofNat 8 ∨
      c = Char.ofNat 12
  · -- an escape of two characters
    rcases hq with rfl | rfl | rfl | rfl | rfl | rfl | rfl <;>
    · simp [escapeChar] at h ⊢
      simp [readText, at?_of_drop h, at?_of_drop (drop_succ_of_drop h)]
  · simp only [not_or] at hq
    obtain ⟨hq1, hq2, hq3, hq4, hq5, hq6, hq7⟩ := hq
    have h8 : c.toNat ≠ 8 := fun e => hq6 (by rw [← e, Char.ofNat_toNat])
    have h12 : c.toNat ≠ 12 := fun e => hq7 (by rw [← e, Char.ofNat_toNat])
    obtain ⟨c', rest', rfl⟩ := List.exists_cons_of_ne_nil hrest
    by_cases hlow : c.toNat < 0x20
    · -- a control character, written as its code in four hexadecimal digits
      have he : (escapeChar c).toList =
          ['\\', 'u', '0', '0', Nat.digitChar (c.toNat / 16), Nat.digitChar (c.toNat % 16)] := by
        simp [escapeChar, hq1, hq2, hq3, hq4, hq5, h8, h12, hlow, hexPad_four (by omega : c.toNat < 256)]
      rw [he] at h ⊢
      have hsize := length_of_drop h
      have h1 := drop_succ_of_drop h
      have h2 := drop_succ_of_drop h1
      simp only [readText, at?_of_drop h, at?_of_drop h1]
      rw [if_neg (by simp at hsize; omega), hex4?_of_drop (by omega) h2]
      dsimp only
      rw [if_neg (by simp; omega)]
      rfl
    · -- any other character stands for itself
      have he : (escapeChar c).toList = [c] := by
        simp [escapeChar, hq1, hq2, hq3, hq4, hq5, h8, h12, hlow]
      rw [he] at h ⊢
      simp only [readText, at?_of_drop h]
      split
      · omega
      · simp [hlone, Text.LoneText.pointAmong]

/-- The escaped characters of a text, then a quote, read as the text. -/
theorem readText_escaped (hlone : r.lone = []) (begin : Nat) : ∀ (cs : List Char) (i : Nat)
    (acc : List Nat) (fuel : Nat) (rest : List Char),
    r.doc.toList.drop i = cs.flatMap (fun c => (escapeChar c).toList) ++ '"' :: rest →
    (cs.flatMap fun c => (escapeChar c).toList).length < fuel →
    r.readText begin i acc fuel =
      .ok (Value.ofPoints (acc.reverse ++ cs.map Char.toNat),
        i + (cs.flatMap fun c => (escapeChar c).toList).length + 1)
  | _, _, _, 0, _, _, hfuel => absurd hfuel (Nat.not_lt_zero _)
  | [], i, acc, fuel + 1, rest, h, _ => by
    simp at h
    simp [readText, at?_of_drop h]
  | c :: cs, i, acc, fuel + 1, rest, h, hfuel => by
    have hpos := List.length_pos_iff.2 (escapeChar_ne_nil c)
    rw [List.flatMap_cons, List.append_assoc] at h
    rw [readText_escapeChar hlone h (by simp),
      readText_escaped hlone begin cs _ _ fuel rest (drop_add_of_drop h)
        (by simp at hfuel ⊢; omega)]
    simp only [List.reverse_cons, List.append_assoc, List.singleton_append, List.map_cons,
      List.flatMap_cons, List.length_append]
    congr 3
    omega

/-! ## Values and members -/

theorem readValue_quote (hlone : r.lone = []) {i fuel : Nat} {s : String} {c : Char} {rest : List Char}
    (h : r.doc.toList.drop i = (quote s).toList ++ c :: rest) :
    r.readValue i (fuel + 1) = .ok (.str s, i + (quote s).toList.length) := by
  rw [quote_toList] at h
  simp only [List.cons_append, List.append_assoc] at h
  have hsize := length_of_drop (l := '"' :: escaped s) (by simpa using h)
  simp only [readValue, at?_of_drop h]
  rw [readText_escaped hlone i s.toList (i + 1) [] _ (c :: rest) (drop_succ_of_drop h)
    (by simp [escaped] at hsize ⊢; omega), quote_toList]
  simp [ofPoints_toNat, escaped]
  omega

theorem readValue_null {i fuel : Nat} {rest : List Char}
    (h : r.doc.toList.drop i = "null".toList ++ rest) :
    r.readValue i (fuel + 1) = .ok (.null, i + 4) := by
  simp only [show "null".toList = ['n', 'u', 'l', 'l'] from rfl, List.cons_append, List.nil_append] at h
  have h1 := drop_succ_of_drop h
  have h2 := drop_succ_of_drop h1
  have h3 := drop_succ_of_drop h2
  simp [readValue, spells, isAt, at?_of_drop h, at?_of_drop h1, at?_of_drop h2, at?_of_drop h3]

/-- The text of a field's value reads as the value. -/
theorem readValue_field (hlone : r.lone = []) {i fuel : Nat} {v : Option String} {c : Char}
    {rest : List Char} (h : r.doc.toList.drop i = (fieldText v).toList ++ c :: rest) :
    r.readValue i (fuel + 1) = .ok (v.elim .null .str, i + (fieldText v).toList.length) := by
  cases v with
  | none => exact readValue_null h
  | some s => exact readValue_quote hlone h

theorem fieldText_head (v : Option String) :
    ∃ d tl, (fieldText v).toList = d :: tl ∧ isGap d = false := by
  cases v with
  | none => exact ⟨'n', _, rfl, rfl⟩
  | some s => exact ⟨'"', escaped s ++ ['"'], by simp [fieldText, quote_toList], rfl⟩

/-- What the reader meets in one member: its quoted name, the colon and blank after it, and the
text of its value, each read where the one before ends. -/
theorem member_facts (hlone : r.lone = []) {i : Nat} {f : String × Option String} {c : Char}
    {rest : List Char}
    (h : r.doc.toList.drop i = (quote f.1).toList ++ (':' :: ' ' :: ((fieldText f.2).toList ++ c :: rest)))
    (fuel : Nat) :
    let j := i + (quote f.1).toList.length
    r.isAt i '}' = false ∧ r.isAt i '"' = true ∧
      r.readText i (i + 1) [] (r.doc.size + 1) = .ok (.str f.1, j) ∧
      r.skipGap j = j ∧ r.isAt j ':' = true ∧ r.skipGap (j + 1) = j + 2 ∧
      r.readValue (j + 2) (fuel + 1) = .ok (f.2.elim .null .str, j + 2 + (fieldText f.2).toList.length) ∧
      r.doc.toList.drop (j + 2 + (fieldText f.2).toList.length) = c :: rest := by
  intro j
  have hq := quote_toList f.1
  have hsize := length_of_drop h
  have hj : r.doc.toList.drop j = ':' :: ' ' :: ((fieldText f.2).toList ++ c :: rest) :=
    drop_add_of_drop h
  have hj1 := drop_succ_of_drop hj
  have hj2 : r.doc.toList.drop (j + 2) = (fieldText f.2).toList ++ c :: rest := drop_succ_of_drop hj1
  rw [hq] at h
  simp only [List.cons_append, List.append_assoc] at h
  have hname := readText_escaped hlone i f.1.toList (i + 1) [] (r.doc.size + 1) _
    (drop_succ_of_drop h) (by simp [hq, escaped] at hsize ⊢; omega)
  refine ⟨by simp [isAt_of_drop h], by simp [isAt_of_drop h], ?_, skipGap_of_not_gap hj rfl,
    by simp [isAt_of_drop hj], ?_, readValue_field hlone hj2, drop_add_of_drop hj2⟩
  · rw [hname]
    simp [ofPoints_toNat, j, hq, escaped]
    omega
  · obtain ⟨d, tl, hd, hgap⟩ := fieldText_head f.2
    rw [hd] at hj1
    rw [skipGap_of_drop [' '] hj1 (by simp [isGap]) (by simpa using hgap)]
    rfl

/-- The members of a record, then the line break and brace that close it, read as the
record's members, after those read before. -/
theorem readMembers_flat (hlone : r.lone = []) : ∀ (fs pre : List (String × Option String)) (i fuel : Nat)
    (first : Bool) (tail : List Char), fs ≠ [] → ((pre ++ fs).map (·.1)).Nodup → fs.length < fuel →
    r.doc.toList.drop i = (membersText fs).toList ++ '\n' :: '}' :: tail →
    r.readMembers i (flatEntries pre) first fuel =
      .ok (.dict (flatEntries (pre ++ fs)), i + (membersText fs).toList.length + 2)
  | [], _, _, _, _, _, hne, _, _, _ => absurd rfl hne
  | _, _, _, 0, _, _, _, _, hfuel, _ => absurd hfuel (Nat.not_lt_zero _)
  | f :: gs, pre, i, fuel + 1, first, tail, _, hnd, hfuel, h => by
    obtain ⟨fuel, rfl⟩ : ∃ k, fuel = k + 1 := ⟨fuel - 1, by simp at hfuel; omega⟩
    have hfresh : f.1 ∉ pre.map (·.1) := by
      intro hm
      rw [List.map_append, List.nodup_append] at hnd
      exact hnd.2.2 _ hm _ (List.mem_cons_self ..) rfl
    cases gs with
    | nil =>
      -- the last member: a line break and the closing brace follow its value
      rw [membersText_single] at h ⊢
      simp only [List.append_assoc, List.cons_append] at h
      obtain ⟨h1, h2, h3, h4, h5, h6, h7, h8⟩ := member_facts hlone h fuel
      have hk := skipGap_of_drop ['\n'] h8 (by simp [isGap]) (by simp [isGap])
      have hclose := isAt_of_drop (drop_succ_of_drop h8) '}'
      simp only [List.length_singleton, beq_self_eq_true] at hk hclose
      simp only [readMembers, h1, h2, h3, h4, h5, h6, h7, hk, hclose, insert_flatEntries hfresh]
      simp
      omega
    | cons g gs =>
      -- a comma, a line break and the indentation lead to the next member
      rw [membersText_cons] at h ⊢
      simp only [List.append_assoc, List.cons_append] at h
      obtain ⟨h1, h2, h3, h4, h5, h6, h7, h8⟩ := member_facts hlone h fuel
      have hk := skipGap_of_not_gap h8 rfl
      have hnext := drop_succ_of_drop h8
      have hcomma := isAt_of_drop h8
      obtain ⟨d, tl, hd, hgap⟩ : ∃ d tl, (membersText (g :: gs)).toList = d :: tl ∧ isGap d = false := by
        cases gs <;> simp [membersText_single, membersText_cons, quote_toList, isGap]
      have hgo : r.skipGap (i + (quote f.1).toList.length + 2 + (fieldText f.2).toList.length + 1) =
          i + (quote f.1).toList.length + 2 + (fieldText f.2).toList.length + 1 + 3 :=
        skipGap_of_drop ['\n', ' ', ' '] (by rw [hnext, hd]; rfl) (by simp [isGap])
          (by simpa using hgap)
      have hrest : r.doc.toList.drop
          (i + (quote f.1).toList.length + 2 + (fieldText f.2).toList.length + 1 + 3) =
          (membersText (g :: gs)).toList ++ '\n' :: '}' :: tail :=
        drop_add_of_drop (l := ['\n', ' ', ' ']) hnext
      have hnd' : ((pre ++ [f]) ++ g :: gs).map (·.1) |>.Nodup := by simpa using hnd
      have ih := readMembers_flat hlone (g :: gs) (pre ++ [f]) _ (fuel + 1) false tail (List.cons_ne_nil _ _)
        hnd' (by simp at hfuel ⊢; omega) hrest
      rw [readMembers]
      simp only [h1, h2, h3, h4, h5, h6, h7, hk, hcomma, hgo, insert_flatEntries hfresh, ih]
      simp
      omega

end Reader

theorem cr_not_mem_escapeChar (c : Char) : '\r' ∉ (escapeChar c).toList := by
  unfold escapeChar
  repeat' split
  all_goals simp_all
  · rw [hexPad_four (by omega)]
    simp
  · intro h
    exact ‹¬c = '\r'› h.symm

theorem cr_not_mem_quote (s : String) : '\r' ∉ (quote s).toList := by
  simp [quote_toList, escaped, cr_not_mem_escapeChar]

theorem cr_not_mem_membersText : ∀ fs : List (String × Option String), '\r' ∉ (membersText fs).toList
  | [] => by simp [membersText, flatEntries, prepareEntries, renderMembers]
  | [f] => by
    rcases f with ⟨k, _ | v⟩ <;> simp [membersText_single, fieldText, cr_not_mem_quote]
  | f :: g :: gs => by
    rw [membersText_cons]
    have := cr_not_mem_membersText (g :: gs)
    rcases f with ⟨k, _ | v⟩ <;> simp_all [fieldText, cr_not_mem_quote]

/-- A written record holds no carriage return: its line breaks are line feeds, and a carriage
return in a text is escaped. -/
theorem cr_not_mem_write_flat {fs : List (String × Option String)} (hne : fs ≠ []) :
    '\r' ∉ (write .indented (.dict (flatEntries fs))).toList := by
  simp [write_flat hne, cr_not_mem_membersText]

theorem length_le_membersText : ∀ fs : List (String × Option String),
    fs.length ≤ (membersText fs).toList.length
  | [] => Nat.zero_le _
  | [f] => by
    simp [membersText_single]
    omega
  | f :: g :: gs => by
    have := length_le_membersText (g :: gs)
    rw [membersText_cons]
    simp only [List.length_append, List.length_cons] at this ⊢
    omega

/-- A record whose fields have distinct names, written indented and followed by blanks,
reads back as itself. -/
theorem parse_write_flat {fs : List (String × Option String)} (hne : fs ≠ [])
    (hnd : (fs.map (·.1)).Nodup) {tail : String} (htail : ∀ c ∈ tail.toList, isGap c = true) :
    parse (write .indented (.dict (flatEntries fs)) ++ tail) = .ok (.dict (flatEntries fs)) := by
  simp only [parse, parseText, parseDecoded]
  rw [if_neg (by simp [write_flat hne])]
  generalize hr : (⟨(write .indented (.dict (flatEntries fs)) ++ tail).toList.toArray, []⟩ : Reader) = r
  have hsz : (write .indented (.dict (flatEntries fs)) ++ tail).toList.toArray.size = r.doc.size := by
    rw [← hr]
  rw [hsz]
  have hlone : r.lone = [] := by rw [← hr]
  have hdoc : r.doc.toList =
      '{' :: ('\n' :: ' ' :: ' ' :: ((membersText fs).toList ++ '\n' :: '}' :: tail.toList)) := by
    simp [← hr, write_flat hne]
  have h0 : r.doc.toList.drop 0 = _ := hdoc
  have h1 := Reader.drop_succ_of_drop h0
  obtain ⟨d, tl, hd, hgap⟩ : ∃ d tl, (membersText fs).toList = d :: tl ∧ isGap d = false := by
    obtain ⟨f, gs, rfl⟩ := List.exists_cons_of_ne_nil hne
    cases gs <;> simp [membersText_single, membersText_cons, quote_toList, isGap]
  have hstart : r.skipGap 1 = 1 + 3 :=
    Reader.skipGap_of_drop ['\n', ' ', ' '] (by rw [h1, hd]; rfl) (by simp [isGap])
      (by simpa using hgap)
  have hm : r.doc.toList.drop (1 + 3) = (membersText fs).toList ++ '\n' :: '}' :: tail.toList :=
    Reader.drop_add_of_drop (l := ['\n', ' ', ' ']) h1
  have hsize := Reader.length_of_drop hm
  have hmembers := Reader.readMembers_flat hlone fs [] (1 + 3) (2 * r.doc.size + 1) true tail.toList hne
    (by simpa using hnd) (by have := length_le_membersText fs; omega) hm
  have hend : r.doc.toList.drop (1 + 3 + (membersText fs).toList.length + 2) = tail.toList ++ [] := by
    have h := Reader.drop_add_of_drop (l := (membersText fs).toList ++ ['\n', '}']) (by simpa using hm)
    simp only [List.length_append, List.length_cons, List.length_nil] at h
    rw [List.append_nil, ← h]
    congr 1
  have hskip := Reader.skipGap_of_drop _ hend htail (by simp)
  rw [Reader.skipGap_of_not_gap h0 rfl, show 2 * r.doc.size + 2 = (2 * r.doc.size + 1) + 1 from rfl,
    Reader.readValue]
  simp only [Reader.at?_of_drop h0, hstart]
  rw [show ([] : Entries) = flatEntries [] from rfl, hmembers, List.nil_append]
  dsimp only
  rw [hskip]
  simp only [List.length_cons] at hsize
  rw [if_neg (by simp; omega)]

end Preflight.Json
