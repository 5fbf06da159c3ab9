import SiteAtlas.Proofs.Settings.Conversion
import SiteAtlas.Proofs.Decimal.Nearest

/-! # Settings by their keys

Every setting of a section is of one of five kinds and has a default. It is a function of the value
under its own key: a kind takes some values, converted, and passes over all others, so that the
default stays. Which values are taken and how they are converted is a relation here, apart from the
functions that do it. A number with nothing of the wanted kind near it, too large or infinite, is
neither taken nor passed over: it stops the reading of the whole section.
-/

namespace SiteAtlas.Settings

/-- What a setting is declared to be. -/
inductive Kind where
  | flag
  | whole
  | measure
  | text
  | texts
  deriving DecidableEq

/-- The word of a text that may stand for a truth value: without blanks around it, in small
letters. -/
def flagWord (s : String) : String := String.ofList (Text.lowerChars (Text.trim s.toList))

/-- A kind takes a value, and the setting is then the result. -/
inductive Accepts : Kind → Value → Value → Prop
  | flag (b : Bool) : Accepts .flag (.bool b) (.bool b)
  | flagOfWhole (n : Int) : Accepts .flag (.number (.whole n)) (.bool (n != 0))
  | flagOn (s : String) (word : flagWord s ∈ ["true", "yes", "on", "1"]) :
      Accepts .flag (.text s) (.bool true)
  | flagOff (s : String) (word : flagWord s ∈ ["false", "no", "off", "0"]) :
      Accepts .flag (.text s) (.bool false)
  | whole (n : Int) : Accepts .whole (.number (.whole n)) (.number (.whole n))
  /-- Of a finite number the whole part of its size counts, with its sign. -/
  | wholePart (x : Float) (d : Dyadic) (finite : Dyadic.ofFloat x = some d) :
      Accepts .whole (.number (.real x))
        (.number (.whole (if d.negative then -⌊d.value⌋ else ⌊d.value⌋)))
  | wholeText (s : String) (n : Int) (spelled : wholeOfText? s = some n) :
      Accepts .whole (.text s) (.number (.whole n))
  | real (x : Float) : Accepts .measure (.number (.real x)) (.number (.real x))
  | nearest (n : Int) (inRange : (Binary64.ofInt n).isInf = false) :
      Accepts .measure (.number (.whole n)) (.number (.real (Binary64.ofInt n)))
  | realText (s : String) (x : Float) (spelled : realOfText? s = some x) :
      Accepts .measure (.text s) (.number (.real x))
  /-- Any value has a text, unless it has a number of too many digits in it. -/
  | text (value : Value) (writable : value.isWritable = true) :
      Accepts .text value (.text value.display)
  | items (s : String) : Accepts .texts (.text s) (Value.texts (splitItems s))
  | list (items : List Value) (writable : ∀ item ∈ items, item.isWritable = true) :
      Accepts .texts (.list items) (Value.texts (items.map Value.display))

/-- A kind cannot even pass over a value. -/
inductive Stops : Kind → Value → Prop
  | tooLarge (n : Int) (large : (Binary64.ofInt n).isInf = true) :
      Stops .measure (.number (.whole n))
  | infinite (x : Float) (infinite : x.isInf = true) : Stops .whole (.number (.real x))

/-- What a setting is, with its default and with the value that there may be under its key. -/
inductive Shows (kind : Kind) (default : Value) : Option Value → Value → Prop
  | absent : Shows kind default none default
  | accepted {value result : Value} (accepts : Accepts kind value result) :
      Shows kind default (some value) result
  | passedOver {value : Value} (refuses : ∀ result, ¬ Accepts kind value result) :
      Shows kind default (some value) default

/-! ## Kinds and conversions -/

/-- A value converted to a kind. -/
def Kind.convert : Kind → Value → Converted Value
  | .flag, value => .ok ((toBool? value).map .bool)
  | .whole, value => (toWhole value).map fun n? => n?.map fun n => .number (.whole n)
  | .measure, value => (toReal value).map fun x? => x?.map fun x => .number (.real x)
  | .text, value => .ok ((toText? value).map .text)
  | .texts, value => .ok ((toTexts? value).map Value.texts)

/-- The setting under a key. -/
def Kind.read (kind : Kind) (fields : Fields) (key : String) (default : Value) :
    Except ReadError Value :=
  match fields.get? key with
  | none => .ok default
  | some value => (kind.convert value).map fun result? => result?.getD default

section Conversions

variable {kind : Kind} {value result default : Value}

theorem toText?_eq_some_iff {text : String} :
    toText? value = some text ↔ value.isWritable = true ∧ value.display = text := by
  rw [toText?]
  cases value.isWritable <;> simp

/-- The items of a list are taken all together, each with its text. -/
theorem mapM_toText?_eq_some_iff {items : List Value} {texts : List String} :
    items.mapM toText? = some texts ↔
      (∀ item ∈ items, item.isWritable = true) ∧ items.map Value.display = texts := by
  induction items generalizing texts with
  | nil => cases texts <;> simp
  | cons item rest ih =>
    simp only [List.mapM_cons, Option.bind_eq_bind, Option.bind_eq_some_iff, toText?_eq_some_iff,
      ih, List.forall_mem_cons, List.map_cons]
    constructor
    · rintro ⟨text, ⟨writable, rfl⟩, others, ⟨areWritable, rfl⟩, made⟩
      exact ⟨⟨writable, areWritable⟩, Option.some.inj made⟩
    · rintro ⟨⟨writable, areWritable⟩, rfl⟩
      exact ⟨_, ⟨writable, rfl⟩, _, ⟨areWritable, rfl⟩, rfl⟩

/-- No word stands for both truth values. -/
theorem flagWord_on_of_off {s : String} (off : flagWord s ∈ ["false", "no", "off", "0"]) :
    flagWord s ∉ ["true", "yes", "on", "1"] := by
  simp only [List.mem_cons, List.not_mem_nil, or_false] at off
  obtain word | word | word | word := off <;> rw [word] <;> decide

theorem toBool?_text (s : String) : toBool? (.text s) =
    if flagWord s ∈ ["true", "yes", "on", "1"] then some true
    else if flagWord s ∈ ["false", "no", "off", "0"] then some false else none := by
  simp only [toBool?, List.contains_iff_mem]
  rfl

/-- A value that a kind takes is converted to the result. -/
theorem Accepts.convert_eq (accepts : Accepts kind value result) :
    kind.convert value = .ok (some result) := by
  cases accepts with
  | flag b => rfl
  | flagOfWhole n => rfl
  | flagOn s word => rw [Kind.convert, toBool?_text, if_pos word]; rfl
  | flagOff s word =>
    rw [Kind.convert, toBool?_text, if_neg (flagWord_on_of_off word), if_pos word]
    rfl
  | whole n => rfl
  | wholePart x d finite =>
    simp only [Kind.convert, toWhole, wholeOfReal, finite, Dyadic.floor_value]
    rfl
  | wholeText s n spelled =>
    simp only [Kind.convert, toWhole, spelled]
    rfl
  | real x => rfl
  | nearest n inRange =>
    simp only [Kind.convert, toReal, realOfWhole, inRange]
    rfl
  | realText s x spelled =>
    simp only [Kind.convert, toReal, spelled]
    rfl
  | text value writable =>
    rw [Kind.convert, toText?_eq_some_iff.mpr ⟨writable, rfl⟩]
    rfl
  | items s => rfl
  | list items writable =>
    rw [Kind.convert, toTexts?, mapM_toText?_eq_some_iff.mpr ⟨writable, rfl⟩]
    rfl

/-- A value that is converted is one that the kind takes. -/
theorem accepts_of_convert (converted : kind.convert value = .ok (some result)) :
    Accepts kind value result := by
  cases kind with
  | flag =>
    obtain ⟨b, taken, rfl⟩ := Option.map_eq_some_iff.mp (Except.ok.inj converted)
    cases value with
    | bool c =>
      cases taken
      exact .flag _
    | number n =>
      cases n with
      | whole n =>
        cases taken
        exact .flagOfWhole _
      | real x => cases taken
    | text s =>
      rw [toBool?_text] at taken
      split at taken
      next on =>
        cases taken
        exact .flagOn s on
      next =>
        split at taken
        next off =>
          cases taken
          exact .flagOff s off
        next => cases taken
    | _ => cases taken
  | whole =>
    obtain ⟨n?, read, taken⟩ := map_eq_ok_iff.mp converted
    obtain ⟨n, rfl, rfl⟩ := Option.map_eq_some_iff.mp taken
    cases value with
    | number m =>
      cases m with
      | whole m =>
        cases read
        exact .whole _
      | real x =>
        simp only [toWhole, wholeOfReal] at read
        split at read
        next => split at read <;> cases read
        next d finite =>
          cases read
          rw [← Dyadic.floor_value]
          exact .wholePart x d finite
    | text s => exact .wholeText s n (Except.ok.inj read)
    | _ => cases read
  | measure =>
    obtain ⟨x?, read, taken⟩ := map_eq_ok_iff.mp converted
    obtain ⟨x, rfl, rfl⟩ := Option.map_eq_some_iff.mp taken
    cases value with
    | number m =>
      cases m with
      | whole n =>
        simp only [toReal, realOfWhole] at read
        split at read
        next => cases read
        next inRange =>
          cases read
          exact .nearest n (Bool.eq_false_iff.mpr inRange)
      | real x =>
        cases read
        exact .real _
    | text s => exact .realText s x (Except.ok.inj read)
    | _ => cases read
  | text =>
    obtain ⟨text, taken, rfl⟩ := Option.map_eq_some_iff.mp (Except.ok.inj converted)
    obtain ⟨writable, rfl⟩ := toText?_eq_some_iff.mp taken
    exact .text value writable
  | texts =>
    obtain ⟨texts, taken, rfl⟩ := Option.map_eq_some_iff.mp (Except.ok.inj converted)
    cases value with
    | text s =>
      cases taken
      exact .items s
    | list items =>
      obtain ⟨writable, rfl⟩ := mapM_toText?_eq_some_iff.mp taken
      exact .list items writable
    | _ => cases taken

/-- A conversion ends, with or without a result, unless the value stops it. -/
theorem exists_convert_iff :
    (∃ result?, kind.convert value = .ok result?) ↔ ¬ Stops kind value := by
  cases kind with
  | flag | text | texts => exact iff_of_true ⟨_, rfl⟩ nofun
  | whole =>
    rw [Kind.convert, exists_map_eq_ok_iff, exists_toWhole_iff]
    constructor
    · intro fits stops
      cases stops with
      | infinite x infinite =>
        obtain ⟨noValue, number⟩ := Dyadic.isInf_iff.mp infinite
        cases number.symm.trans (fits x rfl noValue)
    · rintro passes x ⟨⟩ noValue
      by_contra number
      exact passes (.infinite x (Dyadic.isInf_iff.mpr ⟨noValue, Bool.eq_false_iff.mpr number⟩))
  | measure =>
    rw [Kind.convert, exists_map_eq_ok_iff, exists_toReal_iff]
    constructor
    · intro fits stops
      cases stops with
      | tooLarge n large => cases large.symm.trans (fits n rfl)
    · rintro passes n ⟨⟩
      by_contra large
      exact passes (.tooLarge n (Bool.eq_true_of_not_eq_false large))

/-- A setting that is read is shown. -/
theorem shows_of_read {fields : Fields} {key : String}
    (read : kind.read fields key default = .ok result) :
    Shows kind default (fields.get? key) result := by
  rw [Kind.read] at read
  split at read
  next missing =>
    cases read
    rw [missing]
    exact .absent
  next value found =>
    obtain ⟨result?, converted, rfl⟩ := map_eq_ok_iff.mp read
    rw [found]
    cases result? with
    | some result => exact .accepted (accepts_of_convert converted)
    | none =>
      refine .passedOver fun result accepts => ?_
      cases converted.symm.trans accepts.convert_eq

theorem exists_read_iff {fields : Fields} {key : String} :
    (∃ result, kind.read fields key default = .ok result) ↔
      ∀ value, fields.get? key = some value → ¬ Stops kind value := by
  rw [Kind.read]
  cases fields.get? key with
  | none => simp
  | some value => simpa using exists_map_eq_ok_iff.trans exists_convert_iff

end Conversions

/-! ## Sections -/

/-- The sections that settings are read from. -/
inductive Section where
  | analysis
  | layout
  | schemaLayout

namespace Section

/-- What is read from a section. -/
def Contents : Section → Type
  | .analysis => AnalysisSettings
  | .layout => TreeSpacing Number
  | .schemaLayout => ForceSettings Number

/-- Read a section. -/
def ofFields : (sec : Section) → Fields → Except ReadError sec.Contents
  | .analysis, fields => .ok (AnalysisSettings.ofFields fields)
  | .layout, fields => TreeSpacing.ofFields fields
  | .schemaLayout, fields => ForceSettings.ofFields fields

/-- The settings of a section by their keys. -/
def toFields : (sec : Section) → sec.Contents → Fields
  | .analysis, settings => AnalysisSettings.toFields settings
  | .layout, settings => TreeSpacing.toFields settings
  | .schemaLayout, settings => ForceSettings.toFields settings

/-- The settings of a section when none are set. -/
def standard : (sec : Section) → sec.Contents
  | .analysis => ({} : AnalysisSettings)
  | .layout => TreeSpacing.standard
  | .schemaLayout => ForceSettings.standard

/-- The keys of a section with their defaults. -/
def defaults (sec : Section) : Fields := sec.toFields sec.standard

/-- What the setting under a key is declared to be. -/
def kindOf : Section → String → Kind
  | .analysis, key =>
    if key = "include_dependencies" then .flag
    else if key = "extra_ignores" then .texts
    else .text
  | .layout, key => if key ∈ TreeSpacing.wholeKeys then .whole else .measure
  | .schemaLayout, key => if key ∈ ForceSettings.wholeKeys then .whole else .measure

/-- Read one setting of a section, with its key. -/
def readField (sec : Section) (fields : Fields) (declared : String × Value) :
    Except ReadError (String × Value) :=
  ((sec.kindOf declared.1).read fields declared.1 declared.2).map fun result => (declared.1, result)

variable {fields : Fields} {key : String}

theorem number_eq (default : Number) :
    Kind.measure.read fields key (.number default) =
      (number fields key default).map Value.number := by
  rw [Kind.read, number]
  cases fields.get? key with
  | none => rfl
  | some value =>
    simp only [Kind.convert]
    cases toReal value with
    | error e => rfl
    | ok x? => cases x? <;> rfl

theorem whole_eq (default : Int) :
    Kind.whole.read fields key (.number (.whole default)) =
      (whole fields key default).map fun n => .number (.whole n) := by
  rw [Kind.read, whole]
  cases fields.get? key with
  | none => rfl
  | some value =>
    simp only [Kind.convert]
    cases toWhole value with
    | error e => rfl
    | ok n? => cases n? <;> rfl

theorem flag_eq (default : Bool) :
    Kind.flag.read fields key (.bool default) = .ok (.bool (flag fields key default)) := by
  rw [Kind.read, flag]
  cases fields.get? key with
  | none => rfl
  | some value =>
    simp only [Kind.convert, Option.bind_some]
    cases toBool? value <;> rfl

theorem text_eq (default : String) :
    Kind.text.read fields key (.text default) = .ok (.text (text fields key default)) := by
  rw [Kind.read, text]
  cases fields.get? key with
  | none => rfl
  | some value =>
    simp only [Kind.convert, Option.bind_some]
    cases toText? value <;> rfl

theorem texts_eq (default : List String) :
    Kind.texts.read fields key (Value.texts default) =
      .ok (Value.texts (texts fields key default)) := by
  rw [Kind.read, texts]
  cases fields.get? key with
  | none => rfl
  | some value =>
    simp only [Kind.convert, Option.bind_some]
    cases toTexts? value <;> rfl

theorem except_map_eq {ε β γ : Type} (f : β → γ) (x : Except ε β) : x.map f = f <$> x := rfl

theorem readAnalysis_eq : Except.ok (AnalysisSettings.ofFields fields).toFields =
    Section.analysis.defaults.mapM (Section.analysis.readField fields) := by
  simp only [defaults, toFields, standard, AnalysisSettings.toFields, AnalysisSettings.ofFields,
    List.mapM_cons, List.mapM_nil, readField, kindOf, String.reduceEq, ↓reduceIte, text_eq,
    texts_eq, flag_eq]
  rfl

theorem readLayout_eq : (TreeSpacing.ofFields fields).map TreeSpacing.toFields =
    Section.layout.defaults.mapM (Section.layout.readField fields) := by
  simp only [defaults, toFields, standard, TreeSpacing.toFields, TreeSpacing.ofFields,
    List.mapM_cons, List.mapM_nil, readField, kindOf, TreeSpacing.wholeKeys, List.mem_cons,
    List.not_mem_nil, or_false, String.reduceEq, ↓reduceIte, number_eq, whole_eq]
  -- Both sides read the same settings in the same order.
  simp only [except_map_eq, map_bind, bind_map_left, bind_assoc, pure_bind, map_pure]
  rfl

theorem readSchemaLayout_eq : (ForceSettings.ofFields fields).map ForceSettings.toFields =
    Section.schemaLayout.defaults.mapM (Section.schemaLayout.readField fields) := by
  simp only [defaults, toFields, standard, ForceSettings.toFields, ForceSettings.ofFields,
    List.mapM_cons, List.mapM_nil, readField, kindOf, ForceSettings.wholeKeys, List.mem_cons,
    List.not_mem_nil, or_false, or_true, String.reduceEq, ↓reduceIte, number_eq, whole_eq]
  simp only [except_map_eq, map_bind, bind_map_left, bind_assoc, pure_bind, map_pure]
  rfl

/-- A section is read setting by setting. -/
theorem map_toFields_ofFields (sec : Section) (fields : Fields) :
    (sec.ofFields fields).map sec.toFields = sec.defaults.mapM (sec.readField fields) := by
  cases sec with
  | analysis => exact readAnalysis_eq
  | layout => exact readLayout_eq
  | schemaLayout => exact readSchemaLayout_eq

/-- A section is read unless one of its settings stops. -/
theorem exists_ofFields_iff {sec : Section} : (∃ contents, sec.ofFields fields = .ok contents) ↔
    ∀ declared ∈ sec.defaults, ∀ value, fields.get? declared.1 = some value →
      ¬ Stops (sec.kindOf declared.1) value := by
  calc (∃ contents, sec.ofFields fields = .ok contents)
    _ ↔ ∃ results, sec.defaults.mapM (sec.readField fields) = .ok results := by
      rw [← map_toFields_ofFields, exists_map_eq_ok_iff]
    _ ↔ ∀ declared ∈ sec.defaults, ∃ result, sec.readField fields declared = .ok result :=
      exists_mapM_eq_ok_iff
    _ ↔ _ := forall₂_congr fun declared _ => exists_map_eq_ok_iff.trans exists_read_iff

theorem shows_of_ofFields {sec : Section} {contents : sec.Contents}
    (success : sec.ofFields fields = .ok contents) :
    List.Forall₂ (fun declared field => field.1 = declared.1 ∧
      Shows (sec.kindOf declared.1) declared.2 (fields.get? declared.1) field.2)
      sec.defaults (sec.toFields contents) := by
  have results : sec.defaults.mapM (sec.readField fields) = .ok (sec.toFields contents) := by
    rw [← map_toFields_ofFields, success]
    rfl
  refine (mapM_eq_ok_iff.mp results).imp fun declared field read => ?_
  obtain ⟨result, shown, rfl⟩ := map_eq_ok_iff.mp read
  exact ⟨rfl, shows_of_read shown⟩

/-- Keys that are none of the section's mean nothing. -/
theorem ofFields_congr {sec : Section} {others : Fields}
    (same : ∀ declared ∈ sec.defaults, others.get? declared.1 = fields.get? declared.1) :
    sec.ofFields others = sec.ofFields fields := by
  cases sec with
  | analysis =>
    simp only [defaults, toFields, standard, AnalysisSettings.toFields,
      List.forall_mem_cons] at same
    simp only [ofFields, AnalysisSettings.ofFields, text, texts, flag, same]
  | layout =>
    simp only [defaults, toFields, standard, TreeSpacing.toFields, List.forall_mem_cons] at same
    change TreeSpacing.ofFields others = TreeSpacing.ofFields fields
    simp only [TreeSpacing.ofFields, number, whole, same]
  | schemaLayout =>
    simp only [defaults, toFields, standard, ForceSettings.toFields, List.forall_mem_cons] at same
    change ForceSettings.ofFields others = ForceSettings.ofFields fields
    simp only [ForceSettings.ofFields, number, whole, same]

end Section

/-- A section is read exactly if no value under one of its keys stops its kind; the options of a
walk, which are no numbers, always are. Under every key of what is read there is then the value
that its kind makes of the one in the table, or the default if there is none or if the kind takes
it as nothing. The values under all other keys do not matter, to the result or to an error. -/
theorem settings_follow_own_keys (sec : Section) (fields : Fields) :
    ((∃ contents, sec.ofFields fields = .ok contents) ↔
      ∀ declared ∈ sec.defaults, ∀ value, fields.get? declared.1 = some value →
        ¬ Stops (sec.kindOf declared.1) value) ∧
    (∀ contents, sec.ofFields fields = .ok contents →
      List.Forall₂ (fun declared field => field.1 = declared.1 ∧
        Shows (sec.kindOf declared.1) declared.2 (fields.get? declared.1) field.2)
        sec.defaults (sec.toFields contents)) ∧
    ∀ others : Fields,
      (∀ declared ∈ sec.defaults, others.get? declared.1 = fields.get? declared.1) →
        sec.ofFields others = sec.ofFields fields :=
  ⟨Section.exists_ofFields_iff, fun _ => Section.shows_of_ofFields,
    fun _ => Section.ofFields_congr⟩

/-- An infinite number for a whole setting, and a whole number too large for a measure. -/
theorem reading_stops :
    (TreeSpacing.ofFields [("collision_max_attempts", .number (.real (1.0 / 0.0)))]).map
        (fun _ => ()) = .error .infinite ∧
      (ForceSettings.ofFields [("node_width", .number (.whole (tenTo 400)))]).map
        (fun _ => ()) = .error .numberTooLarge := by
  decide +kernel

end SiteAtlas.Settings
