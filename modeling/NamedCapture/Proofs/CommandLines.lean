/-
NamedCapture/Proofs/CommandLines.lean

Writing a request as a command line.

`Request.arguments` writes the options of a request first, each as one argument, and
then the operands behind `--`, where nothing can be mistaken for an option.  Reading it
settles the options one at a time (`read_argument`), then all of them (`read_settings`),
and what the operands and the settings make is the request again.

Main result: `parse_arguments`.
-/
import Mathlib.Data.List.TakeWhile
import NamedCapture.Cli.Arguments

namespace NamedCapture.Cli

/-! ### The command line of a request -/

/-- The value of the option `--color`. -/
def ColorChoice.value : ColorChoice → String
  | auto => "auto"
  | always => "always"
  | never => "never"

/-- An option as an argument, with its value if it takes one. -/
def Switch.argument (o : Switch) (value : String) : String :=
  if o.takesValue then "--" ++ o.form.long ++ "=" ++ value else "--" ++ o.form.long

/-- The setting of an option, if it is there. -/
def settingOf (o : Switch) (value? : Option String) : List (Switch × String) :=
  value?.toList.map fun value => (o, value)

/-- The value of an option that has none. -/
def flagValue? (on : Bool) : Option String := if on then some "" else none

namespace Request

/-- The command that is asked for. -/
def command : Request → Command
  | check _ _ => .check
  | dump _ _ _ => .dump
  | exec _ _ _ _ _ => .exec

/-- The options that are set. -/
def settings : Request → List (Switch × String)
  | check pattern color =>
    settingOf .patternFile pattern.file? ++ settingOf .color color.value
  | dump pattern json color =>
    settingOf .patternFile pattern.file? ++ settingOf .json (flagValue? json) ++
      settingOf .color color.value
  | exec pattern input all compact color =>
    settingOf .patternFile pattern.file? ++ settingOf .inputFile input.file? ++
      settingOf .all (flagValue? all) ++ settingOf .compact (flagValue? compact) ++
      settingOf .color color.value

/-- The texts that are given in place. -/
def operands : Request → List String
  | check pattern _ | dump pattern _ _ => pattern.inline?.toList
  | exec pattern input _ _ _ => pattern.inline?.toList ++ input.inline?.toList

/-- A command line for the request. -/
def arguments (r : Request) : List String :=
  r.command.name :: r.settings.map (fun x => x.1.argument x.2) ++ "--" :: r.operands

/-- There is a command line for the request: no option has an empty value, and an operand
that stands alone is what `exec` takes it for. -/
def Writable : Request → Prop
  | check pattern _ | dump pattern _ _ => pattern.file? ≠ some ""
  | exec pattern input _ _ _ =>
    pattern.file? ≠ some "" ∧ input.file? ≠ some "" ∧
      (input.inline?.isSome → pattern.inline?.isSome ∨ pattern.file?.isSome) ∧
      (pattern.inline?.isSome → pattern.file?.isSome → input.inline?.isSome)

end Request

/-! ### Reading it -/

namespace Word

/-- The name of a long option ends at the first `=`. -/
theorem ofLong_append {name : List Char} (h : '=' ∉ name) (value : List Char) :
    ofLong (name ++ '=' :: value) = long (.ofList name) (some (.ofList value)) := by
  have htake : (name ++ '=' :: value).takeWhile (· ≠ '=') = name := by
    rw [List.takeWhile_append_of_pos (by grind)]
    simp
  simp only [ofLong, htake, List.drop_left]

/-- Without a `=` there is no value. -/
theorem ofLong_of_notMem {name : List Char} (h : '=' ∉ name) :
    ofLong name = long (.ofList name) none := by
  have htake : name.takeWhile (· ≠ '=') = name := by
    rw [List.takeWhile_eq_self_iff]
    grind
  simp only [ofLong, htake, List.drop_length]

/-- Two dashes with something behind them begin a long option. -/
theorem ofArgument_of_toList {s : String} {cs : List Char} (h : s.toList = '-' :: '-' :: cs)
    (hne : cs ≠ []) : ofArgument s = ofLong cs := by
  cases cs with
  | nil => exact absurd rfl hne
  | cons ch rest => simp only [ofArgument, h]

theorem ofArgument_argument (o : Switch) (value : String) :
    ofArgument (o.argument value) =
      long o.form.long (if o.takesValue then some value else none) := by
  have hname : '=' ∉ o.form.long.toList ∧ o.form.long.toList ≠ [] := by
    cases o <;> decide
  unfold Switch.argument
  split
  · have htext : ("--" ++ o.form.long ++ "=" ++ value).toList =
        '-' :: '-' :: (o.form.long.toList ++ '=' :: value.toList) := by
      simp
    rw [ofArgument_of_toList htext (by simp), ofLong_append hname.1, String.ofList_toList,
      String.ofList_toList]
  · have htext : ("--" ++ o.form.long).toList = '-' :: '-' :: o.form.long.toList := by
      simp
    rw [ofArgument_of_toList htext hname.2, ofLong_of_notMem hname.1, String.ofList_toList]

end Word

namespace Gathered

/-- A value that can be given to an option of a command. -/
structure Settable (c : Command) (o : Switch) (value : String) : Prop where
  mem : o ∈ c.switches
  ne_help : o ≠ .help
  nonempty : o.takesValue → value ≠ ""
  empty : ¬o.takesValue → value = ""
  choice : o.form.choices ≠ [] → value ∈ o.form.choices

variable {c : Command} {o : Switch} {value : String} {settings : List (Switch × String)}

/-- An option that is described is found by its name. -/
theorem find?_switches (h : o ∈ c.switches) :
    c.switches.find? (·.form.long = o.form.long) = some o := by
  cases c <;> cases o <;> revert h <;> decide

theorem set_eq_ok (h : Settable c o value) (hnew : settings.lookup o = none) :
    (⟨[], settings, none⟩ : Gathered).set o value = .ok ⟨[], settings ++ [(o, value)], none⟩ := by
  have hset : ¬((⟨[], settings, none⟩ : Gathered).value? o).isSome := by
    simp [value?, hnew]
  have hempty : ¬(value.isEmpty ∧ o.takesValue) := by
    rintro ⟨hempty, htakes⟩
    exact h.nonempty htakes (by simpa using hempty)
  have hchoice : ¬(!o.form.choices.isEmpty ∧ value ∉ o.form.choices) := by
    rintro ⟨hne, hmem⟩
    exact hmem (h.choice (by simpa using hne))
  rw [set, if_neg hset, if_neg hempty, if_neg hchoice]

/-- **One option.**  An option with a value that it can have becomes a setting. -/
theorem read_argument (h : Settable c o value) (hnew : settings.lookup o = none)
    (rest : List String) :
    read c ⟨[], settings, none⟩ (o.argument value :: rest) =
      read c ⟨[], settings ++ [(o, value)], none⟩ rest := by
  have hlong : long c ⟨[], settings, none⟩ o.form.long
      (if o.takesValue then some value else none) =
        .ok (.more ⟨[], settings ++ [(o, value)], none⟩) := by
    unfold long
    rw [find?_switches h.mem]
    by_cases htakes : o.takesValue
    · simp only [htakes, if_true, attach, settle]
      show Except.map Step.more (set _ o value) = _
      rw [set_eq_ok h hnew]
      rfl
    · obtain rfl := h.empty htakes
      rw [if_neg htakes]
      dsimp only
      rw [if_neg htakes, turnOn]
      show (if o = .help then .ok Step.help else set _ o "" >>= fun g => .ok (.more g)) = _
      rw [if_neg h.ne_help, set_eq_ok h hnew]
      rfl
  rw [read, Word.ofArgument_argument]
  simp only [hlong]
  rfl

/-- The options of a command line become the settings, in the order in which they are
written, if none of them is there twice. -/
theorem read_settings {l : List (Switch × String)} (h : ∀ x ∈ l, Settable c x.1 x.2)
    (hnodup : ((settings ++ l).map (·.1)).Nodup) (rest : List String) :
    read c ⟨[], settings, none⟩ (l.map (fun x => x.1.argument x.2) ++ rest) =
      read c ⟨[], settings ++ l, none⟩ rest := by
  -- the settings grow by the head of what is left to read
  induction l generalizing settings with
  | nil => simp
  | cons x l ih =>
    have hnew : settings.lookup x.1 = none := by
      rw [List.lookup_eq_none_iff]
      grind
    rw [List.map_cons, List.cons_append, read_argument (h x (by simp)) hnew,
      ih (fun y hy => h y (by simp [hy])) (by simpa using hnodup)]
    simp

/-- Behind `--` there are operands only. -/
theorem foldlM_operand {texts operands : List String}
    (h : operands.length + texts.length ≤ c.operands.length) :
    texts.foldlM (operand c) (⟨operands, settings, none⟩ : Gathered) =
      .ok ⟨operands ++ texts, settings, none⟩ := by
  induction texts generalizing operands with
  | nil => simp; rfl
  | cons text texts ih =>
    rw [List.length_cons] at h
    have hstep : operand c ⟨operands, settings, none⟩ text =
        .ok ⟨operands ++ [text], settings, none⟩ := by
      rw [operand, if_pos (by dsimp only; omega)]
      rfl
    rw [List.foldlM_cons, hstep]
    show texts.foldlM (operand c) _ = _
    rw [ih (by simp; omega), List.append_assoc]
    rfl

theorem read_separator {texts : List String} (h : texts.length ≤ c.operands.length) :
    read c ⟨[], settings, none⟩ ("--" :: texts) =
      .ok (.request (c.request texts fun o => settings.lookup o)) := by
  have hword : Word.ofArgument "--" = .separator := by decide
  rw [read, hword]
  dsimp only
  rw [foldlM_operand (by simpa using h)]
  rfl

end Gathered

namespace Command

theorem ofName?_name (c : Command) : ofName? c.name = some c := by
  cases c <;> decide

theorem name_ne_helpName (c : Command) : c.name ≠ helpName := by
  cases c <;> decide

theorem nodup_switches (c : Command) : c.switches.Nodup := by
  cases c <;> decide

end Command

theorem ColorChoice.ofValue?_value (color : ColorChoice) : ofValue? (some color.value) = color := by
  cases color <;> rfl

theorem isSome_flagValue? (on : Bool) : (flagValue? on).isSome = on := by
  cases on <;> rfl

theorem lookup_settingOf (o o' : Switch) (value? : Option String) :
    (settingOf o value?).lookup o' = if o' = o then value? else none := by
  cases value? with
  | none => simp [settingOf]
  | some value =>
    show List.lookup o' [(o, value)] = _
    rw [List.lookup_cons]
    split <;> simp_all

theorem forall_mem_settingOf {o : Switch} {value? : Option String}
    {P : Switch × String → Prop} :
    (∀ x ∈ settingOf o value?, P x) ↔ ∀ value, value? = some value → P (o, value) := by
  simp [settingOf]

theorem sublist_map_fst (o : Switch) (value? : Option String) :
    ((settingOf o value?).map (·.1)).Sublist [o] := by
  cases value? <;> simp [settingOf]

theorem getElem?_zero_toList {α : Type} (x : Option α) : x.toList[0]? = x := by
  cases x <;> rfl

/-- The operands of `exec` are told apart by their number and the pattern file. -/
theorem execTexts_operands {pattern input : TextArgument} {all compact : Bool}
    {color : ColorChoice} (h : (Request.exec pattern input all compact color).Writable) :
    execTexts pattern.file? input.file?
      (pattern.inline?.toList ++ input.inline?.toList)[0]?
      (pattern.inline?.toList ++ input.inline?.toList)[1]? = (pattern, input) := by
  obtain ⟨-, -, halone, hboth⟩ := h
  obtain ⟨inline?, file?⟩ := pattern
  obtain ⟨inline?', file?'⟩ := input
  cases inline? <;> cases inline?' <;> cases file? <;> simp_all [execTexts]

/-- The settings and the operands of a request say what it is. -/
theorem request_settings {r : Request} (h : r.Writable) :
    (r.command.request r.operands fun o => r.settings.lookup o) = r := by
  cases r with
  | check pattern color =>
    simp [Request.settings, Request.command, Request.operands, Command.request,
      List.lookup_append, lookup_settingOf, getElem?_zero_toList, ColorChoice.ofValue?_value]
  | dump pattern json color =>
    simp [Request.settings, Request.command, Request.operands, Command.request,
      List.lookup_append, lookup_settingOf, getElem?_zero_toList, ColorChoice.ofValue?_value,
      isSome_flagValue?]
  | exec pattern input all compact color =>
    have htexts := execTexts_operands h
    simp [Request.settings, Request.command, Request.operands, Command.request,
      List.lookup_append, lookup_settingOf, ColorChoice.ofValue?_value, isSome_flagValue?, htexts]

section

variable (c : Command) {o : Switch}

/-- Any path but the empty one can be given. -/
theorem settable_file {path? : Option String} (ho : o = .patternFile ∨ o = .inputFile)
    (hc : o ∈ c.switches) (hne : path? ≠ some "") :
    ∀ x ∈ settingOf o path?, Gathered.Settable c x.1 x.2 := by
  rw [forall_mem_settingOf]
  rintro path rfl
  have hpath : path ≠ "" := fun h => hne (congrArg some h)
  obtain rfl | rfl := ho <;>
    exact ⟨hc, nofun, fun _ => hpath, fun h => absurd rfl h, fun h => absurd rfl h⟩

theorem settable_flag (on : Bool) (ho : o = .json ∨ o = .all ∨ o = .compact)
    (hc : o ∈ c.switches) :
    ∀ x ∈ settingOf o (flagValue? on), Gathered.Settable c x.1 x.2 := by
  rw [forall_mem_settingOf]
  intro value hvalue
  obtain ⟨-, rfl⟩ : on = true ∧ "" = value := by
    simpa [flagValue?] using hvalue
  obtain rfl | rfl | rfl := ho <;> exact ⟨hc, by decide, by decide, by decide, by decide⟩

theorem settable_color (color : ColorChoice) (hc : .color ∈ c.switches) :
    ∀ x ∈ settingOf .color color.value, Gathered.Settable c x.1 x.2 := by
  rw [forall_mem_settingOf]
  rintro value ⟨⟩
  cases color <;> exact ⟨hc, by decide, by decide, by decide, by decide⟩

end

/-- What a request sets can be set. -/
theorem settable_of_mem_settings {r : Request} (h : r.Writable) :
    ∀ x ∈ r.settings, Gathered.Settable r.command x.1 x.2 := by
  cases r with
  | check pattern color =>
    simp only [Request.settings, List.forall_mem_append]
    exact ⟨settable_file .check (.inl rfl) (by decide) h, settable_color .check color (by decide)⟩
  | dump pattern json color =>
    simp only [Request.settings, List.forall_mem_append]
    exact ⟨⟨settable_file .dump (.inl rfl) (by decide) h,
      settable_flag .dump json (.inl rfl) (by decide)⟩, settable_color .dump color (by decide)⟩
  | exec pattern input all compact color =>
    obtain ⟨hpattern, hinput, -, -⟩ := h
    simp only [Request.settings, List.forall_mem_append]
    exact ⟨⟨⟨⟨settable_file .exec (.inl rfl) (by decide) hpattern,
      settable_file .exec (.inr rfl) (by decide) hinput⟩,
      settable_flag .exec all (.inr (.inl rfl)) (by decide)⟩,
      settable_flag .exec compact (.inr (.inr rfl)) (by decide)⟩,
      settable_color .exec color (by decide)⟩

/-- No option is set twice. -/
theorem nodup_settings (r : Request) : (r.settings.map (·.1)).Nodup := by
  have hsub : (r.settings.map (·.1)).Sublist r.command.switches := by
    cases r with
    | check pattern color =>
      show List.Sublist _ Command.check.switches
      simp only [Request.settings, List.map_append]
      exact ((sublist_map_fst _ _).append (sublist_map_fst _ _)).trans (by decide)
    | dump pattern json color =>
      show List.Sublist _ Command.dump.switches
      simp only [Request.settings, List.map_append]
      exact (((sublist_map_fst _ _).append (sublist_map_fst _ _)).append
        (sublist_map_fst _ _)).trans (by decide)
    | exec pattern input all compact color =>
      show List.Sublist _ Command.exec.switches
      simp only [Request.settings, List.map_append]
      exact (((((sublist_map_fst _ _).append (sublist_map_fst _ _)).append
        (sublist_map_fst _ _)).append (sublist_map_fst _ _)).append
        (sublist_map_fst _ _)).trans (by decide)
  exact hsub.nodup r.command.nodup_switches

theorem length_operands_le (r : Request) : r.operands.length ≤ r.command.operands.length := by
  have hlength : ∀ x : Option String, x.toList.length ≤ 1 := by
    intro x
    cases x <;> simp
  cases r with
  | check pattern color => exact hlength pattern.inline?
  | dump pattern json color => exact hlength pattern.inline?
  | exec pattern input all compact color =>
    have hpattern := hlength pattern.inline?
    have hinput := hlength input.inline?
    show (pattern.inline?.toList ++ input.inline?.toList).length ≤ 2
    rw [List.length_append]
    omega

theorem parse_name (c : Command) (rest : List String) :
    parse (c.name :: rest) = Gathered.empty.read c rest := by
  unfold parse
  dsimp only
  rw [if_neg c.name_ne_helpName, c.ofName?_name]

/-- **A request can be written and read back.**  Any texts in place, any paths that are
not empty, each color choice. -/
theorem parse_arguments {r : Request} (h : r.Writable) :
    parse r.arguments = .ok (.request r) := by
  rw [Request.arguments, List.cons_append, parse_name, Gathered.empty,
    Gathered.read_settings (settable_of_mem_settings h) (by simpa using nodup_settings r),
    Gathered.read_separator (length_operands_le r), List.nil_append, request_settings h]

end NamedCapture.Cli
