import JavaSurvey.Proofs.Scan.Stopping
import JavaSurvey.Text.Encoding

set_option autoImplicit false

namespace JavaSurvey

inductive Visit.Leaves (codecs : Codecs) (parser : SourceParser) (encoding : String) :
    Visit → Diagnostic → Prop
  | unopened {path reason : String} :
      Leaves codecs parser encoding (.source path (.error reason)) ⟨.fileParse, path, reason⟩
  | undecoded {path reason : String} {bytes : List UInt8} {e : Codec}
      (known : codecs encoding = .ok e) (refused : e bytes = .error reason) :
      Leaves codecs parser encoding (.source path (.ok bytes)) ⟨.fileParse, path, reason⟩
  | unparsed {path text : String} {bytes : List UInt8} {e : Codec} {fault : FileFault}
      (known : codecs encoding = .ok e) (decoded : e bytes = .ok text)
      (refused : parser (Newline.unify text) path = .error fault) :
      Leaves codecs parser encoding (.source path (.ok bytes)) ⟨.fileParse, fault.path, fault.reason⟩
  | unlisted {path reason : String} :
      Leaves codecs parser encoding (.unlisted path reason) ⟨.directoryList, path, reason⟩

section

variable {codecs : Codecs} {parser : SourceParser} {encoding : String} {e : Codec} {vs : List Visit}
  {v : Visit} {d : Diagnostic}

theorem Visit.Leaves.of_fault? (h : Scan.Legible codecs encoding e vs) (hv : v ∈ vs)
    (hd : v.fault? parser e = some d) : v.Leaves codecs parser encoding d := by
  cases v with
  | unlisted path reason =>
    cases hd
    exact .unlisted
  | source path content =>
    cases content with
    | error reason =>
      cases hd
      exact .unopened
    | ok bytes =>
      have known := h.opened path bytes hv
      simp only [fault?, Scan.read] at hd
      cases hr : e bytes with
      | error reason =>
        simp only [hr] at hd
        cases hd
        exact .undecoded known hr
      | ok text =>
        simp only [hr] at hd
        cases hp : parser (Newline.unify text) path with
        | error fault =>
          simp only [hp] at hd
          cases hd
          exact .unparsed known hr hp
        | ok sheet => simp [hp] at hd

theorem Visit.Leaves.fault?_eq (h : Scan.Legible codecs encoding e vs) (hv : v ∈ vs)
    (hd : v.Leaves codecs parser encoding d) : v.fault? parser e = some d := by
  cases hd with
  | unopened | unlisted => rfl
  | @undecoded path reason bytes e' known refused =>
    obtain rfl : e' = e := Except.ok.inj (known.symm.trans (h.opened path bytes hv))
    simp [fault?, Scan.read, refused, Diagnostic.ofFault]
  | @unparsed path text bytes e' fault known decoded refused =>
    obtain rfl : e' = e := Except.ok.inj (known.symm.trans (h.opened path bytes hv))
    simp [fault?, Scan.read, decoded, refused, Diagnostic.ofFault]

theorem Scan.Legible.not_blocked (h : Legible codecs encoding e vs) {fault : EncodingFault}
    (hname : codecs encoding = .error fault) (hv : v ∈ vs) : ¬ Blocks fault v := by
  cases v with
  | unlisted path reason => exact id
  | source path content =>
    rintro (rfl | ⟨bytes, rfl⟩)
    · exact h.named path content hv hname
    · rw [h.opened path bytes hv] at hname
      cases hname

end

namespace Scan

/-- A scan fails to return only if the name of its encoding is refused and it gets to a source, or
stands for no text encoding and it gets to a source that opens. If it returns, its diagnostics are
what the failures that it met have left, in their order. -/
theorem directory_escapes_iff (codecs : Codecs) (parser : SourceParser) (settings : Settings)
    (stop : Nat → Bool) (root : String) (item : Item) :
    let vs := handled stop (item.visits settings.sourceSuffix root)
    let outcome := (directory codecs parser settings stop root (.tree item)).outcome
    (∀ err, outcome = .error err ↔ ∃ fault, err = .encoding fault settings.encoding ∧
      codecs settings.encoding = .error fault ∧ ∃ v ∈ vs, Blocks fault v) ∧
    ∀ r, outcome = .ok r → ∃ left : Visit → Option Diagnostic,
      (∀ v ∈ vs, ∀ d, left v = some d ↔ v.Leaves codecs parser settings.encoding d) ∧
      r.diagnostics = vs.filterMap left := by
  intro vs outcome
  have houtcome : outcome = (vs.foldlM (meet codecs parser settings.encoding) {}).map _ :=
    directory_outcome codecs parser settings stop root item
  rcases legible_or_blocked codecs settings.encoding vs with ⟨e, he⟩ | ⟨fault, hn, v, hv, hb⟩
  · rw [foldlM_meet_of_legible he] at houtcome
    refine ⟨fun err => ⟨fun herr => ?_, fun ⟨fault, _, hn, v, hv, hb⟩ => ?_⟩, fun r hr => ?_⟩
    · rw [houtcome] at herr
      cases herr
    · exact absurd hb (he.not_blocked hn hv)
    · rw [houtcome] at hr
      cases hr
      exact ⟨Visit.fault? parser e,
        fun v hv d => ⟨.of_fault? he hv, fun hd => hd.fault?_eq he hv⟩, rfl⟩
  · rw [foldlM_meet_of_blocked hn hv hb] at houtcome
    refine ⟨fun err => ⟨fun herr => ?_, fun ⟨fault', herr, hn', _⟩ => ?_⟩, fun r hr => ?_⟩
    · rw [houtcome] at herr
      cases herr
      exact ⟨fault, rfl, hn, v, hv, hb⟩
    · obtain rfl : fault' = fault := Except.error.inj (hn'.symm.trans hn)
      rw [houtcome, herr]
      rfl
    · rw [houtcome] at hr
      cases hr

theorem directory_escapes_at_unknown :
    let settings : Settings := { encoding := "no-such-codec" }
    let item : Item := .folder [("A.java", .file "class A \x7b\x7d".toUTF8.toList)]
    ∀ parser, (directory Encoding.codecs parser settings never "proj" (.tree item)).outcome =
      .error (.encoding .unknown "no-such-codec") := by
  intro settings item parser
  have hname : Encoding.codecs "no-such-codec" = .error .unknown := by
    have hplain : '\x00' ∉ "no-such-codec".toList := by decide
    have hnone : Encoding.ofName? "no-such-codec" = none := by decide +kernel
    have htext : Encoding.normalName "no-such-codec" ∉ Encoding.binaryNames := by decide
    simp only [Encoding.codecs, if_neg hplain, hnone, if_neg htext]
  have hsuffix : hasSuffix settings.sourceSuffix "A.java" = true := by decide
  have hsource : ("A.java", .ok "class A \x7b\x7d".toUTF8.toList) ∈
      Item.sources settings.sourceSuffix [("A.java", .file "class A \x7b\x7d".toUTF8.toList)] := by
    simp [Item.sources, hsuffix, Item.content?]
  have hvisit : Visit.source (joinPath "proj" "A.java") (.ok "class A \x7b\x7d".toUTF8.toList) ∈
      item.visits settings.sourceSuffix "proj" := by
    rw [Item.visits]
    exact List.mem_append_left _ (List.mem_map_of_mem (mem_sortNamed.mpr hsource))
  rw [directory_outcome_of_unstopped Encoding.codecs parser settings never "proj" item
    fun _ _ => rfl]
  exact foldlM_meet_of_blocked hname hvisit (.inr ⟨_, rfl⟩) _ _

end Scan

end JavaSurvey
