import JavaSurvey.Proofs.Text.Utf8
import JavaSurvey.Tree.Node

/-!
Excerpts of a source by byte offsets. From one end of a character to another an excerpt is the text that
stands there. Other offsets break characters at either side; what is left of these reads as
replacements, and nothing beyond the next end of a character reads differently for it.
-/

set_option autoImplicit false

namespace JavaSurvey

theorem clipOffset_natCast (n i : Nat) : clipOffset n i = min i n := by
  rw [clipOffset, if_neg (by omega), Int.toNat_natCast]

theorem excerpt_natCast (bs : List UInt8) (a c : Nat) :
    excerpt bs.toArray a c = Utf8.decode ((bs.take c).drop a) := by
  have htake : bs.take (min c bs.length) = bs.take c := List.take_eq_take_min.symm
  have hdrop : (bs.take c).drop (min a bs.length) = (bs.take c).drop a := by
    rcases Nat.le_total a bs.length with h | h
    · rw [Nat.min_eq_left h]
    · have hlen : (bs.take c).length ≤ bs.length := List.length_take_le' c bs
      rw [Nat.min_eq_right h, List.drop_of_length_le hlen, List.drop_of_length_le (by omega)]
  rw [excerpt, clipOffset_natCast, clipOffset_natCast, Array.toList_extract, List.size_toArray,
    List.extract_eq_take_drop, ← List.drop_take, htake, hdrop]

theorem excerpt_of_split (p m q : String) :
    excerpt (Utf8.encode (p ++ m ++ q)).toArray (Utf8.encode p).length (Utf8.encode (p ++ m)).length =
      m := by
  rw [excerpt_natCast, Utf8.encode_append (p ++ m), List.take_left, Utf8.encode_append, List.drop_left,
    Utf8.decode_encode]

def Boundary (source : String) (b : Nat) : Prop :=
  ∃ p q, source = p ++ q ∧ b = (Utf8.encode p).length

theorem excerpt_append {source : String} {a b c : Nat} (hab : a ≤ b) (hbc : b ≤ c)
    (hb : Boundary source b) :
    excerpt (Utf8.encode source).toArray a c =
      excerpt (Utf8.encode source).toArray a b ++ excerpt (Utf8.encode source).toArray b c := by
  obtain ⟨p, q, rfl, rfl⟩ := hb
  have hwhole : (Utf8.encode p ++ Utf8.encode q).take c =
      Utf8.encode p ++ (Utf8.encode q).take (c - (Utf8.encode p).length) := by
    rw [List.take_append, List.take_of_length_le hbc]
  -- the second part begins with a character of `q`, even if it ends inside one
  have hrest : Utf8.Restarts ((Utf8.encode q).take (c - (Utf8.encode p).length)) :=
    (Utf8.restarts_encode q).take _
  simp only [excerpt_natCast, Utf8.encode_append]
  rw [hwhole, List.take_left, List.drop_append_of_le_length hab, List.drop_left,
    Utf8.decode_append _ hrest]

namespace Node

def Spans (n : Node) (a b : Nat) : Prop := n.extent.firstByte = a ∧ n.extent.endByte = b

instance (n : Node) (a b : Nat) : Decidable (n.Spans a b) := inferInstanceAs (Decidable (_ ∧ _))

theorem Spans.text_eq {n : Node} {a b : Nat} (h : n.Spans a b) (source : Array UInt8) :
    n.text source = excerpt source a b := by
  rw [text, h.1, h.2]

/-- The text of a node that spans a part of the source is that part. A node that is cut in two where a
character ends, though it may begin and end anywhere, has the texts of its parts as its text. -/
theorem text_between_characters :
    (∀ (p m q : String) (n : Node), n.Spans (Utf8.encode p).length (Utf8.encode (p ++ m)).length →
      n.text (Utf8.encode (p ++ m ++ q)).toArray = m) ∧
    ∀ (source : String) (a b c : Nat), a ≤ b → b ≤ c → Boundary source b →
      ∀ whole left right : Node, whole.Spans a c → left.Spans a b → right.Spans b c →
        whole.text (Utf8.encode source).toArray =
          left.text (Utf8.encode source).toArray ++ right.text (Utf8.encode source).toArray := by
  refine ⟨fun p m q n hn => ?_, fun source a b c hab hbc hb whole left right hw hl hr => ?_⟩
  · rw [hn.text_eq, excerpt_of_split]
  · rw [hw.text_eq, hl.text_eq, hr.text_eq, excerpt_append hab hbc hb]

/-- Characters of two, four, one and two bytes. A node over the second and third, and one from the
middle of the first to the middle of the last, which is cut after the second. -/
theorem text_between_characters_of_broken :
    let bytes := (Utf8.encode "é😀xß").toArray
    let node := fun a b : Int =>
      Node.mk { kind := "identifier", extent := ⟨a, b, ⟨0, a⟩, ⟨0, b⟩⟩ } []
    (node 2 7).text bytes = "😀x" ∧ Boundary "é😀xß" 6 ∧
      (node 1 6).text bytes = "�😀" ∧ (node 6 8).text bytes = "x�" ∧
      (node 1 8).text bytes = "�😀x�" := by
  intro bytes node
  have hb : Boundary "é😀xß" 6 := ⟨"é😀", "xß", by decide, by decide⟩
  have hspans : (node 1 6).Spans 1 6 ∧ (node 6 8).Spans 6 8 := by decide
  have hleft : (node 1 6).text bytes = "�😀" := by
    have hcut : ((Utf8.encode "é😀xß").take 6).drop 1 = [0xA9, 0xF0, 0x9F, 0x98, 0x80] := by decide
    have hchars : Utf8.decodeChars [0xA9, 0xF0, 0x9F, 0x98, 0x80] = ['�', '😀'] := by
      simp [Utf8.decodeChars, Utf8.decodeChar, Utf8.lead?, Utf8.finish, Utf8.replacement]
    rw [hspans.1.text_eq, excerpt_natCast, hcut, Utf8.decode, hchars]
  have hright : (node 6 8).text bytes = "x�" := by
    have hcut : ((Utf8.encode "é😀xß").take 8).drop 6 = [0x78, 0xC3] := by decide
    have hchars : Utf8.decodeChars [0x78, 0xC3] = ['x', '�'] := by
      simp [Utf8.decodeChars, Utf8.decodeChar, Utf8.lead?, Utf8.replacement]
    rw [hspans.2.text_eq, excerpt_natCast, hcut, Utf8.decode, hchars]
  refine ⟨?_, hb, hleft, hright, ?_⟩
  · exact text_between_characters.1 "é" "😀x" "ß" (node 2 7) (by decide)
  · have happend := text_between_characters.2 "é😀xß" 1 6 8 (by decide) (by decide) hb
      (node 1 8) (node 1 6) (node 6 8) (by decide) hspans.1 hspans.2
    rw [happend, hleft, hright]
    rfl

end Node

end JavaSurvey
