import PackageRisk.Json.Printer
import PackageRisk.Json.StringReader

/-!
# Reading printed strings

A string is read as it was before it was printed: whatever the printer does to a character, the
reader undoes.
-/

namespace PackageRisk.Json

/-- The four digits that the printer gives a control are read as its code. -/
theorem codeUnit?_control : ∀ code < 0x20,
    codeUnit? '0' '0' (hexDigit (code / 16)) (hexDigit (code % 16)) = some code := by
  decide

/-- A control without an escape of its own is read from the digits of its code. -/
theorem readStringFrom_control (done rest : List Char) {c : Char} (hc : c.toNat < 0x20) :
    readStringFrom done
        ('\\' :: 'u' :: '0' :: '0' :: hexDigit (c.toNat / 16) :: hexDigit (c.toNat % 16) :: rest) =
      readStringFrom (c :: done) rest := by
  have htrailing : isTrailingSurrogate c.toNat = false := by
    unfold isTrailingSurrogate
    rw [decide_eq_false (by omega), Bool.false_and]
  have hleading : isLeadingSurrogate c.toNat = false := by
    unfold isLeadingSurrogate
    rw [decide_eq_false (by omega), Bool.false_and]
  rw [readStringFrom, codeUnit?_control _ hc]
  simp only [htrailing, hleading, Bool.false_eq_true, if_false, Char.ofNat_toNat]

/-- A character is read from its text. -/
theorem readStringFrom_escapeChar (done rest : List Char) (c : Char) :
    readStringFrom done (escapeChar c ++ rest) = readStringFrom (c :: done) rest := by
  by_cases hquote : c = '"'
  · subst hquote
    rfl
  by_cases hbackslash : c = '\\'
  · subst hbackslash
    rfl
  by_cases hbackspace : c = '\x08'
  · subst hbackspace
    rfl
  by_cases hfeed : c = '\x0c'
  · subst hfeed
    rfl
  by_cases hline : c = '\n'
  · subst hline
    rfl
  by_cases hreturn : c = '\r'
  · subst hreturn
    rfl
  by_cases htab : c = '\t'
  · subst htab
    rfl
  unfold escapeChar
  rw [if_neg hquote, if_neg hbackslash, if_neg hbackspace, if_neg hfeed, if_neg hline,
    if_neg hreturn, if_neg htab]
  by_cases hcontrol : c.toNat < 0x20
  · rw [if_pos hcontrol]
    exact readStringFrom_control done rest hcontrol
  · rw [if_neg hcontrol, List.singleton_append, readStringFrom, if_neg hcontrol]
    · exact hquote
    all_goals
      intros
      exact hbackslash ‹_›

/-- The characters of a string are read from their texts, up to the quote that ends it. -/
theorem readStringFrom_escaped (done text rest : List Char) :
    readStringFrom done (text.flatMap escapeChar ++ '"' :: rest) =
      .ok (String.ofList (done.reverse ++ text), rest) := by
  induction text generalizing done with
  | nil =>
    rw [List.append_nil]
    rfl
  | cons c text ih =>
    rw [List.flatMap_cons, List.append_assoc, readStringFrom_escapeChar, ih, List.reverse_cons,
      List.append_assoc, List.singleton_append]

/-- A string is read from its text. -/
theorem readString_escaped (text : String) (rest : List Char) :
    readString (text.toList.flatMap escapeChar ++ '"' :: rest) = .ok (text, rest) := by
  rw [readString, readStringFrom_escaped, List.reverse_nil, List.nil_append, String.ofList_toList]

end PackageRisk.Json
