import Mathlib.Data.List.Perm.Basic
import Xiangqi.Proofs.Toml.Lines
import Xiangqi.Settings.Toml

/-!
# Settings overlay the defaults

A settings text chooses values for some of three keys, one a line. Choices for different keys do not meet,
so their order does not matter: whatever is chosen holds, and everything else is as it is by default. A
line with another key, or a second line with the same key, spoils the whole text.
-/

namespace Xiangqi.Settings

/-- A value for one of the settings. -/
inductive Choice where
  | firstToMove (side : Side)
  | horseLegBlocking (blocking : Bool)
  | logLevel (level : String)

/-- The line that makes the choice. -/
def Choice.line : Choice → Toml.Line
  | .firstToMove side => ⟨"first_to_move", .text side.name⟩
  | .horseLegBlocking blocking => ⟨"horse_leg_blocking", .bool blocking⟩
  | .logLevel level => ⟨"log_level", .text level⟩

/-- The keys for which there are choices. -/
def keys : List String := ["first_to_move", "horse_leg_blocking", "log_level"]

/-- One choice for each value that is given, in the order of the keys. -/
def chosen (side? : Option Side) (blocking? : Option Bool) (level? : Option String) : List Choice :=
  side?.toList.map .firstToMove ++ blocking?.toList.map .horseLegBlocking ++
    level?.toList.map .logLevel

/-- The settings with a choice taken over. -/
def adopt (settings : Settings) : Choice → Settings
  | .firstToMove side => { settings with firstToMove := side }
  | .horseLegBlocking blocking => { settings with horseLegBlocking := blocking }
  | .logLevel level => { settings with logLevel := level }

/-- The text is printable ASCII, and nothing in it needs an escape. -/
def Printable (text : String) : Prop :=
  ∀ c ∈ text.toList, 0x20 ≤ c.toNat ∧ c.toNat ≤ 0x7E ∧ c ≠ '"' ∧ c ≠ '\\'

instance (text : String) : Decidable (Printable text) :=
  List.decidableBAll _ _

variable {settings : Settings} {choice first second : Choice} {choices : List Choice} {key : String}
  {item : Toml.Item} {lines : List Toml.Line} {side? : Option Side} {blocking? : Option Bool}
  {level? : Option String}

/-! ## Single lines -/

theorem isPlain_of_printable {level : String} (printable : Printable level) :
    (Toml.Scalar.text level).IsPlain := by
  intro c member
  obtain ⟨low, high, notQuote, notBackslash⟩ := printable c member
  refine ⟨?_, notQuote, notBackslash⟩
  have notDelete : c.toNat ≠ 0x7F := by omega
  simp [Toml.isPlain, low, notDelete]

theorem Choice.key_mem_keys (choice : Choice) : choice.line.key ∈ keys := by
  cases choice <;> simp [Choice.line, keys]

theorem isBareKey_of_mem_keys (known : key ∈ keys) : Toml.IsBareKey key := by
  have each : ∀ key ∈ keys, Toml.IsBareKey key := by decide
  exact each key known

theorem Choice.isPlain_line (printable : ∀ level, choice = .logLevel level → Printable level) :
    choice.line.IsPlain := by
  refine ⟨isBareKey_of_mem_keys choice.key_mem_keys, ?_⟩
  cases choice with
  | firstToMove side =>
    have name : Printable side.name := by
      cases side <;> decide
    exact isPlain_of_printable name
  | horseLegBlocking blocking => trivial
  | logLevel level => exact isPlain_of_printable (printable level rfl)

theorem override_choice (settings : Settings) (choice : Choice) :
    settings.override choice.line.key choice.line.value.item = some (settings.adopt choice) := by
  cases choice with
  | firstToMove side =>
    simp [override, Choice.line, Toml.Scalar.item, Side.ofItem?, adopt]
  | horseLegBlocking blocking => rfl
  | logLevel level => rfl

theorem override_of_not_mem_keys (foreign : key ∉ keys) :
    settings.override key item = none := by
  unfold override
  split
  · simp [keys] at foreign
  · simp [keys] at foreign
  · simp [keys] at foreign
  · rfl

/-! ## Several lines -/

theorem ofMembers?_choices (choices : List Choice) :
    ofMembers? ((choices.map Choice.line).map Toml.Line.member) = some (choices.foldl adopt {}) := by
  have takenOver (settings : Settings) :
      ((choices.map Choice.line).map Toml.Line.member).foldlM
          (fun settings member => settings.override member.1 member.2) settings =
        some (choices.foldl adopt settings) := by
    induction choices generalizing settings with
    | nil => rfl
    | cons choice rest ih =>
      have here := override_choice settings choice
      simp only [List.map_cons, List.foldlM_cons, Toml.Line.member, here, List.foldl_cons]
      exact ih (settings.adopt choice)
  exact takenOver {}

/-- A member with another key spoils the table. -/
theorem ofMembers?_of_foreign (foreign : key ∉ keys) (before after : Toml.Members) :
    ofMembers? (before ++ (key, item) :: after) = none := by
  rw [ofMembers?, List.foldlM_append, Option.bind_eq_bind, Option.bind_eq_none_iff]
  intro settings _
  have here : settings.override key item = none := override_of_not_mem_keys foreign
  simp [here]

/-- Choices for different keys do not meet. -/
theorem adopt_comm (different : first.line.key ≠ second.line.key) (settings : Settings) :
    (settings.adopt first).adopt second = (settings.adopt second).adopt first := by
  cases first <;> cases second <;> first | rfl | exact absurd rfl different

/-- The order in which choices for different keys are taken over does not matter. -/
theorem foldl_adopt_perm {arranged : List Choice} (order : choices.Perm arranged)
    (distinct : ((choices.map Choice.line).map Toml.Line.key).Nodup) (settings : Settings) :
    choices.foldl adopt settings = arranged.foldl adopt settings := by
  rw [List.map_map] at distinct
  apply order.foldl_eq'
  intro first inFirst second inSecond settings
  by_cases same : first.line.key = second.line.key
  · rw [List.inj_on_of_nodup_map distinct inFirst inSecond same]
  · exact adopt_comm same settings

theorem nodup_keys_chosen (side? : Option Side) (blocking? : Option Bool) (level? : Option String) :
    (((chosen side? blocking? level?).map Choice.line).map Toml.Line.key).Nodup := by
  cases side? <;> cases blocking? <;> cases level? <;> simp [chosen, Choice.line]

theorem foldl_adopt_chosen (side? : Option Side) (blocking? : Option Bool)
    (level? : Option String) :
    (chosen side? blocking? level?).foldl adopt {} =
      { firstToMove := side?.getD .red, horseLegBlocking := blocking?.getD false,
        logLevel := level?.getD "info" } := by
  cases side? <;> cases blocking? <;> cases level? <;> rfl

theorem logLevel_mem_chosen_iff {level : String} :
    .logLevel level ∈ chosen side? blocking? level? ↔ level? = some level := by
  simp [chosen]

/-- A document of plain lines without repeated keys describes the settings of its table. -/
theorem read_document (plain : ∀ line ∈ lines, line.IsPlain)
    (distinct : (lines.map Toml.Line.key).Nodup)
    (described : ofMembers? (lines.map Toml.Line.member) = some settings) (ended : Bool) :
    read (Toml.document lines ended) = .ok settings := by
  simp only [read, Toml.parse?_document plain ended, if_pos distinct, Option.bind_some, described]

theorem read_document_of_spoiled (plain : ∀ line ∈ lines, line.IsPlain)
    (spoiled : ¬ (lines.map Toml.Line.key).Nodup ∨ ofMembers? (lines.map Toml.Line.member) = none)
    (ended : Bool) : read (Toml.document lines ended) = .error .malformedSettings := by
  by_cases distinct : (lines.map Toml.Line.key).Nodup
  · have undescribed := spoiled.resolve_left (not_not.mpr distinct)
    simp only [read, Toml.parse?_document plain ended, if_pos distinct, Option.bind_some, undescribed]
  · simp only [read, Toml.parse?_document plain ended, if_neg distinct, Option.bind_none]

/-- Lines that choose values for some of the keys, in any order, give these values to the settings and
leave the others as they are by default. With one more line, for a key that is none of these or for a
second time, the text describes no settings. It does not matter whether the last line is ended. -/
theorem choices_overlay_defaults (side? : Option Side) (blocking? : Option Bool)
    (level? : Option String) (printable : ∀ level, level? = some level → Printable level)
    {choices : List Choice} (order : choices.Perm (chosen side? blocking? level?)) (ended : Bool) :
    read (Toml.document (choices.map Choice.line) ended) =
      .ok { firstToMove := side?.getD .red, horseLegBlocking := blocking?.getD false,
            logLevel := level?.getD "info" } ∧
    (∀ key, Toml.IsBareKey key → key ∉ keys → ∀ before after, choices = before ++ after →
      read (Toml.document
        (before.map Choice.line ++ ⟨key, .bool true⟩ :: after.map Choice.line) ended) =
          .error .malformedSettings) ∧
    ∀ choice ∈ choices, ∀ before after, choices = before ++ after →
      read (Toml.document ((before ++ choice :: after).map Choice.line) ended) =
        .error .malformedSettings := by
  have plain : ∀ line ∈ choices.map Choice.line, line.IsPlain := by
    intro line member
    obtain ⟨choice, inChoices, same⟩ := List.mem_map.mp member
    rw [← same]
    apply Choice.isPlain_line
    intro level isLevel
    rw [isLevel, order.mem_iff, logLevel_mem_chosen_iff] at inChoices
    exact printable level inChoices
  have distinct : ((choices.map Choice.line).map Toml.Line.key).Nodup :=
    (((order.map _).map _).nodup_iff).mpr (nodup_keys_chosen side? blocking? level?)
  refine ⟨?_, ?_, ?_⟩
  · have described : ofMembers? ((choices.map Choice.line).map Toml.Line.member) =
        some { firstToMove := side?.getD .red, horseLegBlocking := blocking?.getD false,
               logLevel := level?.getD "info" } := by
      rw [ofMembers?_choices, foldl_adopt_perm order distinct, foldl_adopt_chosen]
    exact read_document plain distinct described ended
  · intro key bare foreign before after split
    rw [split, List.map_append, List.forall_mem_append] at plain
    apply read_document_of_spoiled
    · rw [List.forall_mem_append, List.forall_mem_cons]
      exact ⟨plain.1, ⟨bare, trivial⟩, plain.2⟩
    · right
      rw [List.map_append, List.map_cons]
      exact ofMembers?_of_foreign foreign _ _
  · intro choice member before after split
    have again := plain choice.line (List.mem_map_of_mem member)
    rw [split, List.map_append, List.forall_mem_append] at plain
    have twice : ¬ (((before ++ choice :: after).map Choice.line).map Toml.Line.key).Nodup := by
      rw [List.map_map, List.map_append, List.map_cons, List.nodup_middle, List.nodup_cons,
        ← List.map_append, ← split]
      intro apart
      exact apart.1 (List.mem_map_of_mem member)
    apply read_document_of_spoiled
    · rw [List.map_append, List.map_cons, List.forall_mem_append, List.forall_mem_cons]
      exact ⟨plain.1, again, plain.2⟩
    · exact .inl twice

/-- Two of three choices, out of the order of their keys. A line for a colour in between, or a second line
for the log level, makes the text useless. -/
theorem choices_overlay_defaults_two :
    let choices : List Choice := [.logLevel "warn, xiangqi=debug", .firstToMove .black]
    Printable "warn, xiangqi=debug" ∧
    choices.Perm (chosen (some .black) none (some "warn, xiangqi=debug")) ∧
    read "log_level = \"warn, xiangqi=debug\"\nfirst_to_move = \"black\"\n" =
      .ok { firstToMove := .black, horseLegBlocking := false, logLevel := "warn, xiangqi=debug" } ∧
    Toml.IsBareKey "colour" ∧ "colour" ∉ keys ∧
    read "log_level = \"warn, xiangqi=debug\"\ncolour = true\nfirst_to_move = \"black\"\n" =
      .error .malformedSettings ∧
    read ("log_level = \"warn, xiangqi=debug\"\nfirst_to_move = \"black\"\n" ++
      "log_level = \"warn, xiangqi=debug\"\n") = .error .malformedSettings := by
  intro choices
  have printable : Printable "warn, xiangqi=debug" := by decide
  have order : choices.Perm (chosen (some .black) none (some "warn, xiangqi=debug")) :=
    List.Perm.swap _ _ _
  have bare : Toml.IsBareKey "colour" := by decide
  have foreign : "colour" ∉ keys := by decide
  obtain ⟨accepted, unknown, repeated⟩ := choices_overlay_defaults (some .black) none
    (some "warn, xiangqi=debug") (fun level given => Option.some.inj given ▸ printable) order true
  exact ⟨printable, order, accepted, bare, foreign,
    unknown "colour" bare foreign [.logLevel "warn, xiangqi=debug"] [.firstToMove .black] rfl,
    repeated (.logLevel "warn, xiangqi=debug") List.mem_cons_self choices [] (by simp)⟩

end Xiangqi.Settings
