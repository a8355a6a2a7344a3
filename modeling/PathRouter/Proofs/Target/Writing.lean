import Mathlib.Data.List.Infix
import PathRouter.Proofs.Table.Writing
import PathRouter.Target

/-!
# Writing target templates

A target is written as its controller, an arrow, its method, and its defaults in
brackets.  Reading gives the target back, however many blanks are inserted and
whatever stands behind the last bracket, as long as no part holds what would end
it.

## Main definitions

* `Target.written`: the template of a target.
* `Target.IsSpaced`: a text with blanks inserted.

## Main statements

* `Target.IsSpaced.filter_eq`: inserting blanks changes nothing but blanks.
* `Target.fields_append`: a field is read up to where it ends.
* `Target.parse_of_isSpaced`: a written target is read back.
-/

namespace PathRouter
namespace Target

/-- The text of a default: its name and its value around an equals sign. -/
def writtenDefault (entry : String × String) : String :=
  entry.1 ++ "=" ++ entry.2

/-- The template of a target, given by its controller, its method and the
defaults of its arguments. -/
def written
    (controller method : String)
    (defaults : List (String × String)) : String :=
  controller ++ "->" ++ method ++ "(" ++
    ",".intercalate (defaults.map writtenDefault) ++ ")"

/-- The characters of the defaults of a target, with commas between them. -/
def defaultsText (defaults : List (String × String)) : List Char :=
  [','].intercalate (defaults.map fun default =>
    (writtenDefault default).toList)

/-- A text that does not end a field: nothing in it is blank, a bracket or an
arrow. -/
structure IsFieldText (text : List Char) : Prop where
  /-- Nothing in it is left out. -/
  noBlank : ∀ c ∈ text, Text.isBlank c.toNat = false
  /-- No bracket opens in it. -/
  noOpening : '(' ∉ text
  /-- No bracket closes in it. -/
  noClosing : ')' ∉ text
  /-- No arrow is in it. -/
  noArrow : ¬['-', '>'] <:+: text

/-- A default that can be written: neither the name nor the value ends too
early. -/
structure IsDefault (entry : String × String) : Prop where
  /-- The name does not end the field. -/
  name : IsFieldText entry.1.toList
  /-- The value does not end the field. -/
  value : IsFieldText entry.2.toList
  /-- The name does not end the entry. -/
  nameComma : ',' ∉ entry.1.toList
  /-- The value does not end the entry. -/
  valueComma : ',' ∉ entry.2.toList
  /-- The name does not end before its end. -/
  noEquals : '=' ∉ entry.1.toList

instance (text : List Char) : Decidable (IsFieldText text) :=
  have noBlank_iff :
      (text.any fun c => Text.isBlank c.toNat) = false ↔
        ∀ c ∈ text, Text.isBlank c.toNat = false := by
    simp
  decidable_of_iff
    ((text.any fun c => Text.isBlank c.toNat) = false ∧
      '(' ∉ text ∧ ')' ∉ text ∧ ¬['-', '>'] <:+: text)
    ⟨fun ⟨noBlank, noOpening, noClosing, noArrow⟩ =>
        ⟨noBlank_iff.mp noBlank, noOpening, noClosing, noArrow⟩,
      fun isField => ⟨noBlank_iff.mpr isField.noBlank, isField.noOpening,
        isField.noClosing, isField.noArrow⟩⟩

instance (entry : String × String) : Decidable (IsDefault entry) :=
  decidable_of_iff
    (IsFieldText entry.1.toList ∧ IsFieldText entry.2.toList ∧
      ',' ∉ entry.1.toList ∧ ',' ∉ entry.2.toList ∧ '=' ∉ entry.1.toList)
    ⟨fun ⟨name, value, nameComma, valueComma, noEquals⟩ =>
        ⟨name, value, nameComma, valueComma, noEquals⟩,
      fun isDefault => ⟨isDefault.name, isDefault.value, isDefault.nameComma,
        isDefault.valueComma, isDefault.noEquals⟩⟩

/-- A text with blanks inserted anywhere. -/
inductive IsSpaced : List Char → List Char → Prop
  | nil : IsSpaced [] []
  | keep
      {text template : List Char}
      (c : Char)
      (spaced : IsSpaced text template) :
      IsSpaced (c :: text) (c :: template)
  | blank
      {text template : List Char}
      {c : Char}
      (isBlank : Text.isBlank c.toNat = true)
      (spaced : IsSpaced text template) :
      IsSpaced text (c :: template)

/-! ## Blanks -/

/-- Inserting blanks changes nothing but blanks. -/
theorem IsSpaced.filter_eq
    {text template : List Char}
    (spaced : IsSpaced text template) :
    template.filter (fun c => !Text.isBlank c.toNat) =
      text.filter fun c => !Text.isBlank c.toNat := by
  induction spaced with
  | nil => rfl
  | keep c _ inductionHypothesis =>
      rw [List.filter_cons, List.filter_cons, inductionHypothesis]
  | blank isBlank _ inductionHypothesis =>
      rw [List.filter_cons_of_neg (by rw [isBlank]; exact Bool.false_ne_true),
        inductionHypothesis]

/-- A text is what is left of it with its blanks inserted. -/
theorem isSpaced_filter (template : List Char) :
    IsSpaced (template.filter fun c => !Text.isBlank c.toNat) template := by
  induction template with
  | nil => exact .nil
  | cons c rest inductionHypothesis =>
      cases isBlank : Text.isBlank c.toNat with
      | true =>
          rw [List.filter_cons_of_neg
            (by rw [isBlank]; exact Bool.false_ne_true)]
          exact .blank isBlank inductionHypothesis
      | false =>
          rw [List.filter_cons_of_pos (by rw [isBlank]; rfl)]
          exact .keep c inductionHypothesis

/-! ## Fields -/

namespace IsFieldText

variable {first second : List Char} {c : Char}

theorem nil : IsFieldText [] where
  noBlank := nofun
  noOpening := List.not_mem_nil
  noClosing := List.not_mem_nil
  noArrow := by decide

theorem tail (isField : IsFieldText (c :: first)) : IsFieldText first where
  noBlank := (List.forall_mem_cons.mp isField.noBlank).2
  noOpening := fun opening => isField.noOpening (.tail _ opening)
  noClosing := fun closing => isField.noClosing (.tail _ closing)
  noArrow := fun arrow => isField.noArrow (List.infix_cons arrow)

/-- A character and a text make no arrow at their seam. -/
theorem cons
    (blank : Text.isBlank c.toNat = false)
    (noOpening : c ≠ '(')
    (noClosing : c ≠ ')')
    (seam : c = '-' → ∀ d ∈ first.head?, d ≠ '>')
    (isField : IsFieldText first) :
    IsFieldText (c :: first) where
  noBlank := List.forall_mem_cons.mpr ⟨blank, isField.noBlank⟩
  noOpening := by simp [Ne.symm noOpening, isField.noOpening]
  noClosing := by simp [Ne.symm noClosing, isField.noClosing]
  noArrow := by
    intro arrow
    rcases List.infix_cons_iff.mp arrow with here | behind
    · obtain ⟨rfl, tip⟩ := List.cons_prefix_cons.mp here
      obtain ⟨rest, rfl⟩ := tip
      exact seam rfl '>' rfl rfl
    · exact isField.noArrow behind

/-- Behind a dash there is no tip of an arrow, if none begins what follows. -/
theorem noTip_append
    {behind : List Char}
    (isField : IsFieldText ('-' :: first))
    (noTip : ∀ d ∈ behind.head?, d ≠ '>') :
    ∀ d ∈ (first ++ behind).head?, d ≠ '>' := by
  intro d here
  cases first with
  | nil => exact noTip d here
  | cons e rest =>
      cases here
      rintro rfl
      exact isField.noArrow ⟨[], rest, rfl⟩

/-- A separator between two texts makes no arrow with them. -/
theorem append_cons
    (isFirst : IsFieldText first)
    (isSecond : IsFieldText (c :: second))
    (noTip : c ≠ '>') :
    IsFieldText (first ++ c :: second) := by
  induction first with
  | nil => exact isSecond
  | cons d rest inductionHypothesis =>
      obtain ⟨blank, _⟩ := List.forall_mem_cons.mp isFirst.noBlank
      refine cons blank ?_ ?_ ?_ (inductionHypothesis isFirst.tail)
      · exact fun opening => isFirst.noOpening (opening ▸ List.mem_cons_self)
      · exact fun closing => isFirst.noClosing (closing ▸ List.mem_cons_self)
      · rintro rfl
        exact isFirst.noTip_append (by simpa using noTip)

/-- An equals sign and a comma do not end a field. -/
theorem append_separator
    (isFirst : IsFieldText first)
    (separates : c = '=' ∨ c = ',')
    (isSecond : IsFieldText second) :
    IsFieldText (first ++ c :: second) := by
  have behind : IsFieldText (c :: second) := by
    rcases separates with rfl | rfl <;>
    exact cons (by decide) (by decide) (by decide)
      (fun dash => absurd dash (by decide)) isSecond
  have noTip : c ≠ '>' := by
    rcases separates with rfl | rfl <;> decide
  exact isFirst.append_cons behind noTip

end IsFieldText

/-- Text that does not end a field goes to the field behind it, unless the two
make an arrow. -/
theorem fields_append
    {field behind first : List Char}
    {more : List (List Char)}
    (isField : IsFieldText field)
    (noTip : ∀ c ∈ behind.head?, c ≠ '>')
    (split : fields behind = first :: more) :
    fields (field ++ behind) = (field ++ first) :: more := by
  induction field with
  | nil => exact split
  | cons c rest inductionHypothesis =>
      have noOpening : c ≠ '(' := fun opening =>
        isField.noOpening (opening ▸ List.mem_cons_self)
      have noClosing : c ≠ ')' := fun closing =>
        isField.noClosing (closing ▸ List.mem_cons_self)
      have noArrow : ∀ text, c = '-' → rest ++ behind = '>' :: text →
          False := by
        rintro text rfl equal
        exact isField.noTip_append noTip '>' (by rw [equal]; rfl) rfl
      rw [List.cons_append, fields.eq_3 c _ noArrow,
        if_neg (not_or.mpr ⟨noOpening, noClosing⟩),
        inductionHypothesis isField.tail]
      rfl

/-- A field is read up to what ends it. -/
theorem fields_append_arrow
    {field : List Char}
    (isField : IsFieldText field)
    (behind : List Char) :
    fields (field ++ '-' :: '>' :: behind) = field :: fields behind := by
  have noTip : ∀ c ∈ ('-' :: '>' :: behind).head?, c ≠ '>' := by simp
  rw [fields_append isField noTip rfl, List.append_nil]

theorem fields_append_bracket
    {field : List Char}
    {c : Char}
    (isField : IsFieldText field)
    (bracket : c = '(' ∨ c = ')')
    (behind : List Char) :
    fields (field ++ c :: behind) = field :: fields behind := by
  have split : fields (c :: behind) = [] :: fields behind := by
    rcases bracket with rfl | rfl <;> rfl
  have noTip : c ≠ '>' := by
    rcases bracket with rfl | rfl <;> decide
  rw [fields_append isField (by simpa using noTip) split, List.append_nil]

theorem nonempty?_toList (text : String) :
    nonempty? text.toList = if text = "" then none else some text := by
  rw [nonempty?, String.ofList_toList]
  simp [String.toList_eq_nil_iff]

/-! ## Defaults -/

/-- The parts of a text between separators are those of the library. -/
theorem splitAt_eq_splitOn (separator : Char) (text : List Char) :
    splitAt separator text = text.splitOn separator := by
  rw [List.splitOn_eq_splitOnP]
  induction text with
  | nil => rfl
  | cons c rest inductionHypothesis =>
      rw [splitAt, List.splitOnP_cons_eq_if_modifyHead, inductionHypothesis]
      by_cases separates : c = separator
      · rw [if_pos separates, if_pos (beq_iff_eq.mpr separates)]
      · rw [if_neg separates, if_neg (by simpa using separates)]
        cases split : rest.splitOnP (· == separator) with
        | nil => exact absurd split (List.splitOnP_ne_nil _ _)
        | cons part parts => rfl

section Defaults

variable {default : String × String} {defaults : List (String × String)}

theorem toList_writtenDefault (default : String × String) :
    (writtenDefault default).toList =
      default.1.toList ++ '=' :: default.2.toList := by
  simp [writtenDefault]

theorem isFieldText_writtenDefault (isDefault : IsDefault default) :
    IsFieldText (writtenDefault default).toList := by
  rw [toList_writtenDefault]
  exact isDefault.name.append_separator (.inl rfl) isDefault.value

theorem comma_not_mem_writtenDefault (isDefault : IsDefault default) :
    ',' ∉ (writtenDefault default).toList := by
  rw [toList_writtenDefault]
  simp [isDefault.nameComma, isDefault.valueComma]

/-- The first equals sign stands between the name and the value. -/
theorem entry_append_sign
    {name : List Char}
    (noEquals : '=' ∉ name)
    (value : List Char) :
    entry (name ++ '=' :: value) =
      (String.ofList name, String.ofList value) := by
  have passes : ∀ c ∈ name, decide (c ≠ '=') = true := by
    intro c member
    exact decide_eq_true fun equals => noEquals (equals ▸ member)
  rw [entry, List.takeWhile_append_of_pos passes,
    List.dropWhile_append_of_pos passes]
  simp

/-- A written default is read back. -/
theorem entry_writtenDefault (isDefault : IsDefault default) :
    entry (writtenDefault default).toList = default := by
  rw [toList_writtenDefault, entry_append_sign isDefault.noEquals,
    String.ofList_toList, String.ofList_toList]

/-- Commas between texts that do not end a field do not end it either. -/
theorem isFieldText_intercalate
    {texts : List (List Char)}
    (areFields : ∀ text ∈ texts, IsFieldText text) :
    IsFieldText ([','].intercalate texts) := by
  induction texts with
  | nil => exact .nil
  | cons text rest inductionHypothesis =>
      obtain ⟨isField, others⟩ := List.forall_mem_cons.mp areFields
      have behind := inductionHypothesis others
      cases rest with
      | nil => simpa using isField
      | cons next rest =>
          rw [List.intercalate_cons_cons, List.append_assoc]
          exact isField.append_separator (.inr rfl) behind

theorem isFieldText_defaultsText
    (areDefaults : ∀ default ∈ defaults, IsDefault default) :
    IsFieldText (defaultsText defaults) := by
  apply isFieldText_intercalate
  intro text member
  obtain ⟨default, isMember, rfl⟩ := List.mem_map.mp member
  exact isFieldText_writtenDefault (areDefaults default isMember)

/-- Written defaults are read back in their order. -/
theorem entries_defaultsOf
    (areDefaults : ∀ default ∈ defaults, IsDefault default)
    (distinct : (defaults.map Prod.fst).Nodup) :
    (defaultsOf (defaultsText defaults)).entries = defaults := by
  have parts : (splitAt ',' (defaultsText defaults)).filter (!·.isEmpty) =
      defaults.map fun default => (writtenDefault default).toList := by
    rw [splitAt_eq_splitOn, defaultsText]
    cases defaults with
    | nil => rfl
    | cons default rest =>
        rw [List.splitOn_intercalate ',' _ (by simp)]
        · apply List.filter_eq_self.mpr
          intro text member
          obtain ⟨default, _, rfl⟩ := List.mem_map.mp member
          rw [toList_writtenDefault]
          simp
        · intro text member
          obtain ⟨default, isMember, rfl⟩ := List.mem_map.mp member
          exact comma_not_mem_writtenDefault (areDefaults default isMember)
  have entries : (defaults.map fun default =>
      (writtenDefault default).toList).map entry = defaults := by
    rw [List.map_map]
    refine (List.map_congr_left fun default member => ?_).trans
      (List.map_id defaults)
    exact entry_writtenDefault (areDefaults default member)
  rw [defaultsOf, parts, entries, Table.entries_ofList distinct]

end Defaults

/-! ## Reading back -/

theorem toList_written
    (controller method : String)
    (defaults : List (String × String)) :
    (written controller method defaults).toList =
      controller.toList ++ '-' :: '>' :: (method.toList ++ '(' ::
        (defaultsText defaults ++ [')'])) := by
  simp [written, defaultsText, String.toList_intercalate, Function.comp_def]

/-- Nothing in the template of a target is left out. -/
theorem filter_written
    {controller method : String}
    {defaults : List (String × String)}
    (controllerBlank : ∀ c ∈ controller.toList, Text.isBlank c.toNat = false)
    (methodBlank : ∀ c ∈ method.toList, Text.isBlank c.toNat = false)
    (argumentsBlank : ∀ c ∈ defaultsText defaults,
      Text.isBlank c.toNat = false) :
    (written controller method defaults).toList.filter
        (fun c => !Text.isBlank c.toNat) =
      (written controller method defaults).toList := by
  have noBlank : ∀ c ∈ (written controller method defaults).toList,
      Text.isBlank c.toNat = false := by
    rw [toList_written]
    simp only [List.forall_mem_append, List.forall_mem_cons]
    exact ⟨controllerBlank, by decide, by decide, methodBlank, by decide,
      argumentsBlank, by decide, nofun⟩
  apply List.filter_eq_self.mpr
  intro c member
  rw [noBlank c member]
  rfl

/-- A written target is read back, with blanks inserted anywhere and with any
text behind it. -/
theorem parse_of_isSpaced
    {controller method template : String}
    {defaults : List (String × String)}
    (isController : IsFieldText controller.toList)
    (isMethod : IsFieldText method.toList)
    (areDefaults : ∀ default ∈ defaults, IsDefault default)
    (distinct : (defaults.map Prod.fst).Nodup)
    (spaced : IsSpaced (written controller method defaults).toList
      template.toList)
    (rest : String) :
    let target := parse (template ++ rest)
    target.controller? = (if controller = "" then none else some controller) ∧
      target.method? = (if method = "" then none else some method) ∧
      target.defaults.entries = defaults := by
  have isArguments := isFieldText_defaultsText areDefaults
  have kept : template.toList.filter (fun c => !Text.isBlank c.toNat) =
      (written controller method defaults).toList := by
    rw [spaced.filter_eq]
    exact filter_written isController.noBlank isMethod.noBlank
      isArguments.noBlank
  have split : fields ((template ++ rest).toList.filter
      fun c => !Text.isBlank c.toNat) =
        controller.toList :: method.toList :: defaultsText defaults ::
          fields (rest.toList.filter fun c => !Text.isBlank c.toNat) := by
    rw [String.toList_append, List.filter_append, kept, toList_written]
    simp only [List.append_assoc, List.cons_append, List.nil_append]
    rw [fields_append_arrow isController,
      fields_append_bracket isMethod (.inl rfl),
      fields_append_bracket isArguments (.inr rfl)]
  simp only [parse, split, List.getD_cons_zero, List.getD_cons_succ]
  exact ⟨nonempty?_toList controller, nonempty?_toList method,
    entries_defaultsOf areDefaults distinct⟩

/-- Dashes and tips beside the arrow, a blank inside it, and a default without a
name and a value. -/
theorem parse_of_isSpaced_dashes :
    let target := parse ("a- -\t> >m (=,- b = a=\n>)" ++ "->(x")
    target.controller? = some "a-" ∧
      target.method? = some ">m" ∧
      target.defaults.entries = [("", ""), ("-b", "a=>")] := by
  have kept : "a- -\t> >m (=,- b = a=\n>)".toList.filter
      (fun c => !Text.isBlank c.toNat) =
        (written "a-" ">m" [("", ""), ("-b", "a=>")]).toList := by
    decide
  exact parse_of_isSpaced (by decide) (by decide) (by decide) (by decide)
    (kept ▸ isSpaced_filter _) "->(x"

end Target
end PathRouter
