/-
# Pairs that are written are read back

A query is cut at `&`, its pairs at the first `=`, blanks are put in place of `+`, and then escapes
are resolved.  Writing escapes all four marks, so each of these steps finds what writing put there
and nothing else.

| step | theorem |
| --- | --- |
| escapes | `Percent.decodeOctets_escape` |
| a name or a value | `readText_writeText` |
| a pair | `readPair_writePair` |
| a query | `pairs_intercalate` |
| a form | `ofOctets_encode_write` |

Pairs are grouped into a form by their names, and a form in which no name stands twice and none is
without a value is the group of its own pairs.
-/

import LoginGate.Form
import LoginGate.Proofs.Utf8

namespace LoginGate
namespace Percent

/-- The octet of a hexadecimal digit. -/
def hexOctet (n : Nat) : UInt8 :=
  UInt8.ofNat (hexDigit n).toNat

/-- The octet of a hexadecimal digit is read as that digit. -/
theorem char_hexOctet : ∀ n < 16, char (hexOctet n) = hexDigit n := by decide

/-- An octet other than the percent sign stands for itself. -/
theorem decodeOctets_cons {a : UInt8} (h : a ≠ 0x25) (r : Octets) :
    decodeOctets (a :: r) = a :: decodeOctets r := by
  match r with
  | [] => rfl
  | [_] => rfl
  | b :: c :: r => rw [decodeOctets, unescape?, if_neg h]

/-- An escape stands for its octet. -/
theorem decodeOctets_escape (b : UInt8) (r : Octets) :
    decodeOctets (0x25 :: hexOctet (b.toNat / 16) :: hexOctet (b.toNat % 16) :: r) =
      b :: decodeOctets r := by
  have hb : b.toNat < 256 := b.toNat_lt
  have high : b.toNat / 16 < 16 := by omega
  have low : b.toNat % 16 < 16 := by omega
  have whole : 16 * (b.toNat / 16) + b.toNat % 16 = b.toNat := by omega
  rw [decodeOctets, unescape?, if_pos rfl, octet?, char_hexOctet _ high, char_hexOctet _ low,
    hexValue?_hexDigit _ high, hexValue?_hexDigit _ low]
  dsimp only
  rw [whole, UInt8.ofNat_toNat]

/-- The character of an octet has its number. -/
theorem char_toNat (b : UInt8) : (char b).toNat = b.toNat := by
  have h : b.toNat < 0x100 := b.toNat_lt
  rw [char, Char.ofNat, dif_pos (.inl (by omega))]
  rfl

/-- Marks with a meaning of their own are not unreserved. -/
theorem char_ne_of_isUnreserved {b : UInt8} (h : isUnreserved b = true) :
    ∀ c ∈ ['%', '+', '&', '='], char b ≠ c := by
  intro c hc same
  have escaped : isUnreserved (UInt8.ofNat c.toNat) = false := by
    simp only [List.mem_cons, List.not_mem_nil, or_false] at hc
    obtain rfl | rfl | rfl | rfl := hc <;> decide
  rw [← same, char_toNat, UInt8.ofNat_toNat, h] at escaped
  cases escaped

end Percent

namespace Form

/-- A character of a written text as it is read: `+` is a blank. -/
def blankOf (c : Char) : Char :=
  if c = '+' then ' ' else c

/-- What the characters of an octet are read as, before its escape is resolved. -/
def octetsOf (b : UInt8) : Octets :=
  if b = 0x20 ∨ Percent.isUnreserved b then [b]
  else [0x25, Percent.hexOctet (b.toNat / 16), Percent.hexOctet (b.toNat % 16)]

/-- A character below `0x80` is one octet. -/
theorem encodeChar_of_lt {c : Char} (h : c.toNat < 0x80) :
    String.utf8EncodeChar c = [UInt8.ofNat c.toNat] := by
  rw [String.utf8EncodeChar]
  exact if_pos (Nat.le_of_lt_succ h)

/-- Hexadecimal digits are read as they are. -/
theorem encodeChar_hexDigit : ∀ n < 16,
    String.utf8EncodeChar (blankOf (Percent.hexDigit n)) = [Percent.hexOctet n] := by decide

/-- What is written for an octet is read as one octet, or as a percent sign and two digits. -/
theorem encode_octetForm (b : UInt8) :
    ((octetForm b).map blankOf).flatMap String.utf8EncodeChar = octetsOf b := by
  unfold octetForm octetsOf
  by_cases blank : b = 0x20
  · subst blank
    rfl
  · rw [if_neg blank]
    by_cases kept : Percent.isUnreserved b = true
    · rw [if_pos kept, if_pos (.inr kept), List.map_singleton, List.flatMap_singleton,
        blankOf, if_neg (Percent.char_ne_of_isUnreserved kept '+' (by decide))]
      have low : b.toNat < 0x80 := by
        rw [Percent.isUnreserved, Bool.and_eq_true, decide_eq_true_eq] at kept
        exact kept.1
      rw [encodeChar_of_lt (by rwa [Percent.char_toNat]), Percent.char_toNat, UInt8.ofNat_toNat]
    · rw [if_neg kept, if_neg (by simp [blank, kept])]
      have hb : b.toNat < 256 := b.toNat_lt
      simp only [Percent.escape, List.map_cons, List.map_nil, List.flatMap_cons, List.flatMap_nil,
        encodeChar_hexDigit (b.toNat / 16) (by omega),
        encodeChar_hexDigit (b.toNat % 16) (by omega)]
      rfl

/-- What is written for an octet is resolved to it, whatever follows. -/
theorem decodeOctets_octetsOf (b : UInt8) (r : Octets) :
    Percent.decodeOctets (octetsOf b ++ r) = b :: Percent.decodeOctets r := by
  unfold octetsOf
  split
  · rename_i kept
    refine Percent.decodeOctets_cons ?_ r
    rintro rfl
    exact absurd kept (by decide)
  · exact Percent.decodeOctets_escape b r

/-- What is written for octets is resolved to them. -/
theorem decodeOctets_flatMap (o : Octets) :
    Percent.decodeOctets (o.flatMap octetsOf) = o := by
  induction o with
  | nil => rfl
  | cons b o ih => rw [List.flatMap_cons, decodeOctets_octetsOf, ih]

/-- **A text that is written into a form is read back.** -/
theorem readText_writeText (s : String) : readText (writeText s).toList = s := by
  have octets : Utf8.encode (String.ofList ((writeText s).toList.map blankOf)) =
      (Utf8.encode s).flatMap octetsOf := by
    rw [Utf8.encode, writeText, String.toList_ofList, String.toList_ofList, List.map_flatMap,
      List.flatMap_assoc]
    simp only [encode_octetForm]
  rw [readText, Percent.decode]
  exact (congrArg (fun o => Utf8.decodeLossy (Percent.decodeOctets o)) octets).trans
    ((congrArg Utf8.decodeLossy (decodeOctets_flatMap _)).trans (Utf8.decodeLossy_encode s))

/-- What is written holds none of the marks between pairs and within one. -/
theorem not_mem_writeText {c : Char} (hc : c ∈ ['&', '=']) (s : String) :
    c ∉ (writeText s).toList := by
  have either : c = '&' ∨ c = '=' := by simpa using hc
  have digit : ∀ n < 16, c ≠ Percent.hexDigit n := by obtain rfl | rfl := either <;> decide
  have blank : c ≠ '+' ∧ c ≠ '%' := by obtain rfl | rfl := either <;> decide
  rw [writeText, String.toList_ofList, List.mem_flatMap]
  rintro ⟨b, -, mem⟩
  have hb : b.toNat < 256 := b.toNat_lt
  unfold octetForm at mem
  split_ifs at mem with one two
  · exact blank.1 (List.mem_singleton.1 mem)
  · rw [List.mem_singleton] at mem
    exact Percent.char_ne_of_isUnreserved two c (List.mem_of_mem_drop (i := 2) hc) mem.symm
  · simp only [Percent.escape, List.mem_cons, List.not_mem_nil, or_false] at mem
    obtain mem | mem | mem := mem
    · exact blank.2 mem
    · exact digit _ (by omega) mem
    · exact digit _ (by omega) mem

end Form

namespace Text

variable {α : Type} [DecidableEq α] {c : α} {l : List α}

/-- A list is cut at the first mark. -/
theorem cutAt_append (h : c ∉ l) (r : List α) : cutAt c (l ++ c :: r) = (l, some r) := by
  induction l with
  | nil => rw [List.nil_append, cutAt, if_pos rfl]
  | cons x l ih =>
    obtain ⟨first, rest⟩ := List.ne_and_not_mem_of_not_mem_cons h
    rw [List.cons_append, cutAt, if_neg (Ne.symm first), ih rest]

/-- A list without a mark is one piece. -/
theorem splitOn_of_not_mem (h : c ∉ l) : splitOn c l = [l] := by
  induction l with
  | nil => rfl
  | cons x l ih =>
    obtain ⟨first, rest⟩ := List.ne_and_not_mem_of_not_mem_cons h
    rw [splitOn, if_neg (Ne.symm first), ih rest]

/-- The first piece ends at the first mark. -/
theorem splitOn_append (h : c ∉ l) (r : List α) :
    splitOn c (l ++ c :: r) = l :: splitOn c r := by
  induction l with
  | nil => rw [List.nil_append, splitOn, if_pos rfl]
  | cons x l ih =>
    obtain ⟨first, rest⟩ := List.ne_and_not_mem_of_not_mem_cons h
    rw [List.cons_append, splitOn, if_neg (Ne.symm first), ih rest]

/-- Pieces without the mark that are written with the mark between them are cut at the marks. -/
theorem splitOn_intercalate (ls : List (List α)) (h : ∀ l ∈ ls, c ∉ l) (some : ls ≠ []) :
    splitOn c ([c].intercalate ls) = ls := by
  induction ls with
  | nil => exact absurd rfl some
  | cons l ls ih =>
    have first := h l List.mem_cons_self
    cases ls with
    | nil => rw [List.intercalate_singleton, splitOn_of_not_mem first]
    | cons k ls =>
      rw [List.intercalate_cons_cons, List.append_assoc, List.singleton_append,
        splitOn_append first, ih (fun l hl => h l (List.mem_cons_of_mem _ hl)) (by simp)]

end Text

namespace Form

/-- A pair is written as its name and its value with `=` between them. -/
theorem writePair_toList (p : String × String) :
    (writePair p).toList = (writeText p.1).toList ++ '=' :: (writeText p.2).toList := by
  rw [writePair, String.toList_append, String.toList_append, List.append_assoc]
  rfl

/-- A pair that was written is read back. -/
theorem readPair_writePair (p : String × String) : readPair (writePair p).toList = p := by
  rw [readPair, writePair_toList, Text.cutAt_append (not_mem_writeText (by decide) p.1)]
  dsimp only
  rw [Option.getD_some, readText_writeText, readText_writeText]

/-- **Pairs that are written into a query are read back,** in order and none beside them. -/
theorem pairs_intercalate (ps : List (String × String)) :
    pairs ("&".intercalate (ps.map writePair)) = ps := by
  by_cases none : ps = []
  · subst none
    rfl
  · have apart : ∀ l ∈ ps.map fun p => (writePair p).toList, '&' ∉ l := by
      intro l hl
      obtain ⟨p, -, rfl⟩ := List.mem_map.1 hl
      rw [writePair_toList, List.mem_append, List.mem_cons]
      rintro (mem | mem | mem)
      · exact not_mem_writeText (by decide) _ mem
      · exact absurd mem (by decide)
      · exact not_mem_writeText (by decide) _ mem
    have filled : (ps.map fun p => (writePair p).toList).filter (fun l => !l.isEmpty) =
        ps.map fun p => (writePair p).toList := by
      refine List.filter_eq_self.2 fun l hl => ?_
      obtain ⟨p, -, rfl⟩ := List.mem_map.1 hl
      simp [writePair_toList]
    rw [pairs, String.toList_intercalate, List.map_map]
    refine (congrArg (fun ls : List (List Char) => (ls.filter fun l => !l.isEmpty).map readPair)
      (Text.splitOn_intercalate _ apart (by simpa using none))).trans ?_
    rw [filled, List.map_map]
    conv => rhs; rw [← List.map_id ps]
    exact List.map_congr_left fun p _ => readPair_writePair p

/-! ## Forms -/

variable {f g : Form} {n v : String} {vs : List String}

/-- A name that is new comes last. -/
theorem add_of_not_mem (h : n ∉ f.map Prod.fst) : add n v f = f ++ [(n, [v])] := by
  induction f with
  | nil => rfl
  | cons p f ih =>
    obtain ⟨first, rest⟩ := List.ne_and_not_mem_of_not_mem_cons h
    rw [add, if_neg (Ne.symm first), ih rest, List.cons_append]

/-- One more value for the last name. -/
theorem add_append (h : n ∉ f.map Prod.fst) (vs : List String) :
    add n v (f ++ [(n, vs)]) = f ++ [(n, vs ++ [v])] := by
  induction f with
  | nil => rw [List.nil_append, add, if_pos rfl, List.nil_append]
  | cons p f ih =>
    obtain ⟨first, rest⟩ := List.ne_and_not_mem_of_not_mem_cons h
    rw [List.cons_append, add, if_neg (Ne.symm first), ih rest, List.cons_append]

/-- The names of a form after a value was added. -/
theorem mem_names_add {m : String} : m ∈ (add n v f).map Prod.fst ↔ m ∈ f.map Prod.fst ∨ m = n := by
  induction f with
  | nil => simp [add]
  | cons p f ih =>
    by_cases own : p.1 = n
    · subst own
      rw [add, if_pos rfl]
      exact ⟨.inl, fun h => h.elim id fun same => same ▸ List.mem_cons_self⟩
    · rw [add, if_neg own, List.map_cons, List.map_cons, List.mem_cons, List.mem_cons, ih, or_assoc]

/-- A form stays well-formed when a value is added, under a name that it has or a new one. -/
theorem WellFormed.add (h : WellFormed f) (n v : String) : WellFormed (add n v f) := by
  induction f with
  | nil => simp [WellFormed, Form.add]
  | cons p f ih =>
    obtain ⟨distinct, filled⟩ := h
    obtain ⟨new, distinct⟩ := List.nodup_cons.1 distinct
    by_cases own : p.1 = n
    · rw [Form.add, if_pos own]
      refine ⟨List.nodup_cons.2 ⟨new, distinct⟩, fun q hq => ?_⟩
      obtain rfl | hq := List.mem_cons.1 hq
      · exact List.append_ne_nil_of_right_ne_nil _ (List.cons_ne_nil v [])
      · exact filled q (List.mem_cons_of_mem p hq)
    · obtain ⟨rest, valued⟩ := ih ⟨distinct, fun q hq => filled q (List.mem_cons_of_mem p hq)⟩
      rw [Form.add, if_neg own]
      refine ⟨List.nodup_cons.2 ⟨fun mem => ?_, rest⟩, fun q hq => ?_⟩
      · exact (mem_names_add.1 mem).elim new own
      · obtain rfl | hq := List.mem_cons.1 hq
        · exact filled _ List.mem_cons_self
        · exact valued q hq

/-- **Pairs that are grouped are a well-formed form.** -/
theorem wellFormed_ofPairs (ps : List (String × String)) : WellFormed (ofPairs ps) :=
  List.foldlRecOn ps _ ⟨List.nodup_nil, nofun⟩ fun _ h p _ => h.add p.1 p.2

/-- The values of a new name come together. -/
theorem foldl_add_values (h : n ∉ f.map Prod.fst) (vs us : List String) :
    (vs.map fun v => (n, v)).foldl (fun f p => add p.1 p.2 f) (f ++ [(n, us)]) =
      f ++ [(n, us ++ vs)] := by
  induction vs generalizing us with
  | nil => rw [List.append_nil]; rfl
  | cons v vs ih =>
    rw [List.map_cons, List.foldl_cons, add_append h, ih, List.append_assoc, List.singleton_append]

/-- The pairs of a form whose names are new are grouped after the names that are there. -/
theorem foldl_add_toPairs (distinct : ((f ++ g).map Prod.fst).Nodup) (filled : ∀ p ∈ g, p.2 ≠ []) :
    g.toPairs.foldl (fun f p => add p.1 p.2 f) f = f ++ g := by
  induction g generalizing f with
  | nil => rw [List.append_nil]; rfl
  | cons p g ih =>
    obtain ⟨n, vs⟩ := p
    have new : n ∉ f.map Prod.fst := by
      rw [List.map_append, List.nodup_append] at distinct
      exact fun mem => distinct.2.2 n mem n List.mem_cons_self rfl
    rw [List.append_cons] at distinct ⊢
    cases vs with
    | nil => exact absurd rfl (filled _ List.mem_cons_self)
    | cons v vs =>
      have grouped := foldl_add_values new vs [v]
      rw [toPairs, List.flatMap_cons, List.foldl_append]
      dsimp only
      rw [List.map_cons, List.foldl_cons, add_of_not_mem new, grouped]
      exact ih distinct fun q hq => filled q (List.mem_cons_of_mem _ hq)

/-- A well-formed form is the group of its own pairs. -/
theorem ofPairs_toPairs (h : WellFormed f) : ofPairs (toPairs f) = f :=
  foldl_add_toPairs (f := []) h.1 h.2

/-- **A well-formed form that is written as a body is read back.** -/
theorem ofOctets_encode_write (h : WellFormed f) : ofOctets (Utf8.encode (write f)) = f := by
  rw [ofOctets, Utf8.decodeLossy_encode, write, pairs_intercalate, ofPairs_toPairs h]

end Form
end LoginGate
