import Gatehouse.Outcome
import Gatehouse.Settings.Load

/-!
# The rules on the secret

What counts for a setting is found by a search through three sources. `Sources.Holds` says what is
found, as a property of the sources: a value given under the very name goes before one given under
a name that is read like it, and both go before a variable of the environment, and that before one
of the file; of the variables of one place the last counts. The rules on the secret come after
that search and after the values were taken for a text and a truth value, so they are stated of
what the sources hold (`SecretRules`): a secret that is kept is the text that they hold, and one is
made only if they hold none, or an empty one, and ask for a service under development.

`load` reports what was said only with settings that it accepts. Here the warning is also followed
through the refusals (`Sources.said`), which never come with one.
-/

namespace Gatehouse.Settings

namespace Sources

variable {s : Sources} {name text : String} {v : Datum}

/-! ## What the sources hold -/

/-- Whether a variable is there for a setting. -/
def Counts (s : Sources) (name : String) (p : String × Option String) : Prop :=
  s.reading.fold p.1 = s.reading.variableName name ∧ ¬ (s.reading.skipsEmpty ∧ p.2 = some "")

/-- Whether the last variable of a place that is there for a setting has a text. -/
def Says (s : Sources) (place : VariablePlace) (name text : String) : Prop :=
  Reaches (fun p => ¬ s.Counts name p) (fun p => s.Counts name p ∧ p.2 = some text)
    (s.variables place).reverse

/-- `s.Holds name v`: the value `v` is what counts for a setting. -/
inductive Holds (s : Sources) (name : String) : Datum → Prop
  | named {v : Datum} (hinit : Reaches (fun p => p.1 ≠ name) (fun p => p = (name, v)) s.init) :
      Holds s name v
  | alike {v : Datum} (hunnamed : ∀ p ∈ s.init, p.1 ≠ name)
      (hinit : Reaches (fun p => s.reading.fold p.1 ≠ name)
        (fun p => s.reading.fold p.1 = name ∧ p.2 = v) s.init) :
      Holds s name v
  | fromEnv {text : String} (hungiven : ∀ p ∈ s.init, p.1 ≠ name ∧ s.reading.fold p.1 ≠ name)
      (henv : s.Says .environment name text) : Holds s name (s.textValue text)
  | fromFile {text : String} (hungiven : ∀ p ∈ s.init, p.1 ≠ name ∧ s.reading.fold p.1 ≠ name)
      (hunset : ∀ other, ¬ s.Says .environment name other) (hfile : s.Says .file name text) :
      Holds s name (s.textValue text)

theorem lookup_init_eq_some_iff :
    s.init.lookup name = some v ↔
      Reaches (fun p => p.1 ≠ name) (fun p => p = (name, v)) s.init := by
  rw [List.lookup_eq_some_iff]
  constructor
  · rintro ⟨ahead, behind, hinit, hahead⟩
    refine ⟨ahead, (name, v), behind, hinit, fun p hp => ?_, rfl⟩
    exact Ne.symm (bne_iff_ne.mp (hahead p hp))
  · rintro ⟨ahead, _, behind, hinit, hahead, rfl⟩
    exact ⟨ahead, behind, hinit, fun p hp => bne_iff_ne.mpr (Ne.symm (hahead p hp))⟩

theorem find?_init_eq_some_iff :
    (s.init.find? fun p => s.reading.fold p.1 = name).map (·.2) = some v ↔
      Reaches (fun p => s.reading.fold p.1 ≠ name)
        (fun p => s.reading.fold p.1 = name ∧ p.2 = v) s.init := by
  simp only [Option.map_eq_some_iff, List.find?_eq_some_iff_append]
  constructor
  · rintro ⟨p, ⟨hp, ahead, behind, hinit, hahead⟩, hv⟩
    exact ⟨ahead, p, behind, hinit, fun q hq => by simpa using hahead q hq, by simpa using hp, hv⟩
  · rintro ⟨ahead, p, behind, hinit, hahead, hp, hv⟩
    exact ⟨p, ⟨by simpa using hp, ahead, behind, hinit, fun q hq => by simpa using hahead q hq⟩, hv⟩

/-- Passing over a variable that does not count is passing over one that is skipped or has another
name. -/
theorem lookup_variables_eq_some_iff {value : Option String}
    (vars : List (String × Option String)) :
    ((vars.filter fun p => !(s.reading.skipsEmpty && p.2 = some "")).map fun p =>
        (s.reading.fold p.1, p.2)).lookup (s.reading.variableName name) = some value ↔
      Reaches (fun p => ¬ s.Counts name p) (fun p => s.Counts name p ∧ p.2 = value) vars := by
  induction vars with
  | nil => exact iff_of_false nofun not_reaches_nil
  | cons p vars ih =>
      rw [reaches_cons, ← ih, Counts]
      rw [← decide_eq_true_eq (p := p.2 = some ""), ← Bool.and_eq_true]
      cases hskipped : s.reading.skipsEmpty && decide (p.2 = some "") with
      | true =>
          rw [List.filter_cons_of_neg (by rw [hskipped]; exact Bool.false_ne_true)]
          simp
      | false =>
          rw [List.filter_cons_of_pos (by rw [hskipped]; rfl), List.map_cons, List.lookup_cons]
          by_cases hname : s.reading.fold p.1 = s.reading.variableName name
          · simp [hname]
          · rw [beq_false_of_ne (Ne.symm hname)]
            simp [hname]

theorem found?_eq_some_iff {place : VariablePlace} :
    s.found? place name = some text ↔ s.Says place name text := by
  rw [Says, ← lookup_variables_eq_some_iff, found?, variablesRead, Option.join_eq_some_iff,
    List.filter_reverse, List.map_reverse]

theorem found?_eq_none_iff {place : VariablePlace} :
    s.found? place name = none ↔ ∀ text, ¬ s.Says place name text := by
  simp only [Option.eq_none_iff_forall_ne_some, Ne, found?_eq_some_iff]

theorem given?_eq_none_iff :
    s.given? name = none ↔ ∀ p ∈ s.init, p.1 ≠ name ∧ s.reading.fold p.1 ≠ name := by
  rw [given?, Option.or_eq_none_iff, List.lookup_eq_none_iff, Option.map_eq_none_iff,
    List.find?_eq_none]
  simp only [bne_iff_ne, decide_eq_true_eq, ne_comm (a := name)]
  exact ⟨fun h p hp => ⟨h.1 p hp, h.2 p hp⟩,
    fun h => ⟨fun p hp => (h p hp).1, fun p hp => (h p hp).2⟩⟩

theorem value?_eq_some_iff : s.value? name = some v ↔ s.Holds name v := by
  rw [value?, Option.or_eq_some_iff, given?_eq_none_iff, given?, Option.or_eq_some_iff,
    List.lookup_eq_none_iff, lookup_init_eq_some_iff, find?_init_eq_some_iff,
    Option.map_eq_some_iff]
  simp only [Option.or_eq_some_iff, found?_eq_some_iff, found?_eq_none_iff]
  constructor
  · rintro ((h | ⟨hunnamed, h⟩) | ⟨hungiven, text, henv | ⟨hunset, hfile⟩, rfl⟩)
    · exact .named h
    · exact .alike (fun p hp => Ne.symm (bne_iff_ne.mp (hunnamed p hp))) h
    · exact .fromEnv hungiven henv
    · exact .fromFile hungiven hunset hfile
  · rintro (h | ⟨hunnamed, h⟩ | ⟨hungiven, henv⟩ | ⟨hungiven, hunset, hfile⟩)
    · exact Or.inl (Or.inl h)
    · exact Or.inl (Or.inr ⟨fun p hp => bne_iff_ne.mpr (Ne.symm (hunnamed p hp)), h⟩)
    · exact Or.inr ⟨hungiven, _, Or.inl henv, rfl⟩
    · exact Or.inr ⟨hungiven, _, Or.inr ⟨hunset, hfile⟩, rfl⟩

theorem value?_eq_none_iff : s.value? name = none ↔ ∀ v, ¬ s.Holds name v := by
  simp only [Option.eq_none_iff_forall_ne_some, Ne, value?_eq_some_iff]

/-- A setting that is held must be taken for a value, and one that is not has its default. -/
theorem check_eq_ok_iff {α : Type} {standard a : α} {coerce : Datum → Except Refusal α} :
    s.check name standard coerce = .ok a ↔
      (∃ v, s.Holds name v ∧ coerce v = .ok a) ∨ (∀ v, ¬ s.Holds name v) ∧ standard = a := by
  rw [← value?_eq_none_iff, check]
  simp only [← value?_eq_some_iff]
  cases s.value? name with
  | none => simp
  | some v => simp [Checked.ofMember_eq_ok_iff]

/-! ## Settings before the rules -/

/-- The text that the sources hold as the secret. -/
def Writes (s : Sources) (text : String) : Prop :=
  ∃ v, s.Holds "secret_key" v ∧ Coercion.toText v = .ok text

/-- The sources hold no secret, or an empty one. -/
def Bare (s : Sources) : Prop := (∀ v, ¬ s.Holds "secret_key" v) ∨ s.Writes ""

/-- The sources ask for a service under development. -/
def SetsDebug (s : Sources) : Prop := ∃ v, s.Holds "debug" v ∧ Coercion.toBool v = .ok true

/-- The settings from all sources, before the rules on the secret. -/
def plain (s : Sources) : Except LoadError Settings := do
  let origins ← s.listValue? "cors_origins"
  (s.settings origins).mapError .invalid

/-- What is said when settings are loaded, whether or not they are accepted. -/
def said (s : Sources) : List LogEntry :=
  match s.plain with
  | .ok plain => if plain.secretKey.isEmpty && plain.debug then [freshWarning] else []
  | .error _ => []

theorem load_eq_bind (fresh : String) (s : Sources) : load fresh s = s.plain >>= secure fresh := by
  rw [load, plain]
  cases s.listValue? "cors_origins" <;> rfl

theorem checks_of_settings {origins : Option Datum} {plain : Settings}
    (h : s.settings origins = .ok plain) :
    s.check "debug" false Coercion.toBool = .ok plain.debug ∧
      s.check "secret_key" "" Coercion.toText = .ok plain.secretKey := by
  rw [settings] at h
  -- The settings are applied in their order: fifteen come after the secret.
  iterate 15
    rw [Checked.apply_eq_ok_iff] at h
    obtain ⟨_, _, h, -, rfl⟩ := h
  simp only [Checked.apply_eq_ok_iff] at h
  obtain ⟨_, secretKey, ⟨_, environment, ⟨_, debug, ⟨⟩, hdebug, rfl⟩, -, rfl⟩, hsecret, rfl⟩ := h
  exact ⟨hdebug, hsecret⟩

theorem checks_of_plain {plain : Settings} (h : s.plain = .ok plain) :
    s.check "debug" false Coercion.toBool = .ok plain.debug ∧
      s.check "secret_key" "" Coercion.toText = .ok plain.secretKey := by
  rw [Sources.plain] at h
  obtain ⟨origins, -, h⟩ := exists_of_bind_eq_ok h
  cases hsettings : s.settings origins with
  | error complaints => rw [hsettings] at h; cases h
  | ok settings =>
      rw [hsettings] at h
      cases h
      exact checks_of_settings hsettings

theorem debug_eq_true_iff {plain : Settings} (h : s.plain = .ok plain) :
    plain.debug = true ↔ s.SetsDebug := by
  have hdebug := (checks_of_plain h).1
  constructor
  · intro hset
    rw [hset] at hdebug
    obtain hheld | ⟨-, hstandard⟩ := check_eq_ok_iff.mp hdebug
    · exact hheld
    · cases hstandard
  · intro hset
    have hcheck : s.check "debug" false Coercion.toBool = .ok true :=
      check_eq_ok_iff.mpr (Or.inl hset)
    exact Except.ok.inj (hdebug.symm.trans hcheck)

theorem writes_of_plain {plain : Settings} (h : s.plain = .ok plain)
    (hsecret : plain.secretKey ≠ "") : s.Writes plain.secretKey := by
  obtain hheld | ⟨-, hstandard⟩ := check_eq_ok_iff.mp (checks_of_plain h).2
  · exact hheld
  · exact absurd hstandard.symm hsecret

theorem secretKey_of_writes {plain : Settings} (h : s.plain = .ok plain) (hwrites : s.Writes text) :
    plain.secretKey = text := by
  have hcheck : s.check "secret_key" "" Coercion.toText = .ok text :=
    check_eq_ok_iff.mpr (Or.inl hwrites)
  exact Except.ok.inj ((checks_of_plain h).2.symm.trans hcheck)

theorem secretKey_eq_empty_iff {plain : Settings} (h : s.plain = .ok plain) :
    plain.secretKey = "" ↔ s.Bare := by
  constructor
  · intro hempty
    have hsecret := (checks_of_plain h).2
    rw [hempty] at hsecret
    obtain hheld | ⟨hunheld, -⟩ := check_eq_ok_iff.mp hsecret
    · exact Or.inr hheld
    · exact Or.inl hunheld
  · rintro (hunheld | hwrites)
    · have hcheck : s.check "secret_key" "" Coercion.toText = .ok "" :=
        check_eq_ok_iff.mpr (Or.inr ⟨hunheld, rfl⟩)
      exact Except.ok.inj ((checks_of_plain h).2.symm.trans hcheck)
    · exact secretKey_of_writes h hwrites

end Sources

/-! ## The rules -/

/-- The secret is the text that the sources hold, and there is nothing to say. -/
def Loaded.Keeps (l : Loaded) (s : Sources) : Prop :=
  s.Writes l.settings.secretKey ∧ l.freshSecret = false ∧ l.logs = []

/-- The secret is a fresh one, which is said once. -/
def Loaded.Makes (l : Loaded) (fresh : String) (s : Sources) : Prop :=
  s.Bare ∧ s.SetsDebug ∧ l.settings.debug = true ∧ l.settings.secretKey = fresh ∧
    l.freshSecret = true ∧ l.logs = [freshWarning]

/-- What is sure of the secret when settings are loaded. -/
structure SecretRules (fresh : String) (s : Sources) : Prop where
  accepted : ∀ l, load fresh s = .ok l →
    32 ≤ l.settings.secretKey.length ∧ l.logs = s.said ∧ (l.Keeps s ∨ l.Makes fresh s)
  refused : (s.Bare ∧ ¬ s.SetsDebug) ∨ (∃ text, s.Writes text ∧ text ≠ "" ∧ text.length < 32) →
    (∃ e, load fresh s = .error e) ∧ s.said = []
  accepted_iff : (∃ l, load fresh s = .ok l) ↔ (∃ plain, s.plain = .ok plain) ∧
    ((∃ text, s.Writes text ∧ 32 ≤ text.length) ∨
      (s.Bare ∧ s.SetsDebug ∧ 32 ≤ fresh.length))

/-- The names under which a value says how names are read. -/
def readingOptions : List String :=
  ["_case_sensitive", "_env_ignore_empty", "_env_parse_none_str", "_env_prefix",
    "_env_nested_delimiter"]

/-- Values given directly that say no more of how settings are found than how names are read. -/
structure Given where
  values : List (String × Datum)
  /-- Names that start with an underscore are for the reader of settings itself. -/
  known : ∀ p ∈ values, Text.startsWith "_" p.1 = true → p.1 ∈ readingOptions
  /-- What is to stand in a name is a text. -/
  worded : ∀ p ∈ values, p.1 = "_env_prefix" ∨ p.1 = "_env_nested_delimiter" →
    p.2 = .none ∨ ∃ text, p.2 = .str text

theorem Given.ofInit_eq_default {given : Given}
    (h : ∀ p ∈ given.values, Text.startsWith "_" p.1 = false) :
    EnvReading.ofInit given.values = {} := by
  have hunsaid (name : String) (hname : Text.startsWith "_" name = true) :
      given.values.lookup name = none := by
    refine List.lookup_eq_none_iff.mpr fun p hp => bne_iff_ne.mpr fun hsame => ?_
    rw [hsame, h p hp] at hname
    cases hname
  simp only [EnvReading.ofInit, hunsaid "_case_sensitive" (by decide),
    hunsaid "_env_ignore_empty" (by decide), hunsaid "_env_parse_none_str" (by decide),
    hunsaid "_env_prefix" (by decide), hunsaid "_env_nested_delimiter" (by decide)]
  rfl

theorem secure_eq_ok_iff {fresh : String} {plain : Settings} {l : Loaded} :
    secure fresh plain = .ok l ↔
      (32 ≤ plain.secretKey.length ∧ l = ⟨plain, false, []⟩) ∨
        (plain.secretKey = "" ∧ plain.debug = true ∧ 32 ≤ fresh.length ∧
          l = ⟨{ plain with secretKey := fresh }, true, [freshWarning]⟩) := by
  rw [secure, minSecretLength]
  by_cases hempty : plain.secretKey = ""
  · have hlength : plain.secretKey.length = 0 := by rw [hempty]; rfl
    rw [if_pos (String.isEmpty_iff.mpr hempty)]
    cases plain.debug with
    | false => simp [hlength]
    | true =>
        by_cases hfresh : fresh.length < 32
        · simp [hfresh, hlength, Nat.not_le.mpr hfresh]
        · simp [hfresh, hempty, Nat.not_lt.mp hfresh, eq_comm (b := l)]
  · rw [if_neg fun h => hempty (String.isEmpty_iff.mp h)]
    by_cases hshort : plain.secretKey.length < 32
    · simp [hshort, hempty, Nat.not_le.mpr hshort]
    · simp [hshort, hempty, Nat.not_lt.mp hshort, eq_comm (b := l)]

variable {fresh : String} {s : Sources} {plain : Settings}

theorem load_eq_ok_iff {l : Loaded} :
    load fresh s = .ok l ↔ ∃ plain, s.plain = .ok plain ∧ secure fresh plain = .ok l := by
  rw [Sources.load_eq_bind]
  refine ⟨exists_of_bind_eq_ok, ?_⟩
  rintro ⟨plain, hplain, hsecure⟩
  rw [hplain]
  exact hsecure

theorem said_eq_nil (hplain : s.plain = .ok plain)
    (h : ¬ (plain.secretKey = "" ∧ plain.debug = true)) : s.said = [] := by
  rw [Sources.said, hplain]
  refine if_neg ?_
  rwa [Bool.and_eq_true, String.isEmpty_iff]

theorem ne_empty_of_length {text : String} (h : 32 ≤ text.length) : text ≠ "" := by
  rintro rfl
  exact absurd h (by decide)

theorem exists_load_iff : (∃ l, load fresh s = .ok l) ↔ (∃ plain, s.plain = .ok plain) ∧
    ((∃ text, s.Writes text ∧ 32 ≤ text.length) ∨
      (s.Bare ∧ s.SetsDebug ∧ 32 ≤ fresh.length)) := by
  simp only [load_eq_ok_iff, secure_eq_ok_iff]
  constructor
  · rintro ⟨l, plain, hplain, hlong | ⟨hempty, hdebug, hfresh, -⟩⟩
    · have hwrites := Sources.writes_of_plain hplain (ne_empty_of_length hlong.1)
      exact ⟨⟨plain, hplain⟩, Or.inl ⟨_, hwrites, hlong.1⟩⟩
    · have hbare := (Sources.secretKey_eq_empty_iff hplain).mp hempty
      have hsets := (Sources.debug_eq_true_iff hplain).mp hdebug
      exact ⟨⟨plain, hplain⟩, Or.inr ⟨hbare, hsets, hfresh⟩⟩
  · rintro ⟨⟨plain, hplain⟩, ⟨text, hwrites, hlong⟩ | ⟨hbare, hsets, hfresh⟩⟩
    · have hsecret := Sources.secretKey_of_writes hplain hwrites
      exact ⟨_, plain, hplain, Or.inl ⟨hsecret ▸ hlong, rfl⟩⟩
    · have hempty := (Sources.secretKey_eq_empty_iff hplain).mpr hbare
      have hdebug := (Sources.debug_eq_true_iff hplain).mpr hsets
      exact ⟨_, plain, hplain, Or.inr ⟨hempty, hdebug, hfresh, rfl⟩⟩

theorem rules_of_load {l : Loaded} (h : load fresh s = .ok l) :
    32 ≤ l.settings.secretKey.length ∧ l.logs = s.said ∧ (l.Keeps s ∨ l.Makes fresh s) := by
  obtain ⟨plain, hplain, hsecure⟩ := load_eq_ok_iff.mp h
  obtain ⟨hlong, rfl⟩ | ⟨hempty, hdebug, hfresh, rfl⟩ := secure_eq_ok_iff.mp hsecure
  · have hwritten := ne_empty_of_length hlong
    have hsaid := said_eq_nil hplain fun hboth => hwritten hboth.1
    exact ⟨hlong, hsaid.symm, Or.inl ⟨Sources.writes_of_plain hplain hwritten, rfl, rfl⟩⟩
  · have hsaid : s.said = [freshWarning] := by
      rw [Sources.said, hplain]
      exact if_pos (by rw [hempty, hdebug]; rfl)
    have hbare := (Sources.secretKey_eq_empty_iff hplain).mp hempty
    have hsets := (Sources.debug_eq_true_iff hplain).mp hdebug
    exact ⟨hfresh, hsaid.symm, Or.inr ⟨hbare, hsets, hdebug, rfl, rfl, rfl⟩⟩

theorem refused_of_secret
    (h : (s.Bare ∧ ¬ s.SetsDebug) ∨ ∃ text, s.Writes text ∧ text ≠ "" ∧ text.length < 32) :
    (∃ e, load fresh s = .error e) ∧ s.said = [] := by
  rw [Sources.load_eq_bind]
  cases hplain : s.plain with
  | error e => exact ⟨⟨e, rfl⟩, by rw [Sources.said, hplain]⟩
  | ok plain =>
      have hneither : plain.secretKey.length < 32 ∧
          ¬ (plain.secretKey = "" ∧ plain.debug = true) := by
        obtain ⟨hbare, hsets⟩ | ⟨text, hwrites, hwritten, hshort⟩ := h
        · rw [(Sources.secretKey_eq_empty_iff hplain).mpr hbare, Sources.debug_eq_true_iff hplain]
          exact ⟨by decide, fun hboth => hsets hboth.2⟩
        · rw [Sources.secretKey_of_writes hplain hwrites]
          exact ⟨hshort, fun hboth => hwritten hboth.1⟩
      refine ⟨?_, said_eq_nil hplain hneither.2⟩
      cases hsecure : secure fresh plain with
      | error e => exact ⟨e, hsecure⟩
      | ok l =>
          obtain ⟨hlong, -⟩ | ⟨hempty, hdebug, -⟩ := secure_eq_ok_iff.mp hsecure
          · exact absurd hneither.1 (Nat.not_lt.mpr hlong)
          · exact absurd ⟨hempty, hdebug⟩ hneither.2

/-- Whatever is given and whatever the environment and the file hold, the secret follows the
rules. The values given directly may say how names are read; if they do not, names are read in any
case. -/
theorem load_secret (fresh : String) (given : Given) (env : List (String × String))
    (file : List (String × Option String)) (depth : Nat) :
    SecretRules fresh ⟨given.values, env, file, .ofInit given.values, depth⟩ ∧
      ((∀ p ∈ given.values, Text.startsWith "_" p.1 = false) →
        EnvReading.ofInit given.values = {}) :=
  ⟨⟨fun _ => rules_of_load, refused_of_secret, exists_load_iff⟩, Given.ofInit_eq_default⟩

/-! A secret of the file, with nothing given directly and an empty environment. -/

def unsaid : Given := ⟨[], nofun, nofun⟩

def ownSecret : String := "kkkkkkkkkkkkkkkkkkkkkkkkkkkkkkkk"

theorem file_secret_kept :
    ∃ l, load "" ⟨unsaid.values, [], [("SECRET_KEY", some ownSecret)], {}, 0⟩ = .ok l ∧
      l.Keeps ⟨unsaid.values, [], [("SECRET_KEY", some ownSecret)], {}, 0⟩ := by
  have hload : load "" ⟨unsaid.values, [], [("SECRET_KEY", some ownSecret)], {}, 0⟩ =
      .ok ⟨{ secretKey := ownSecret }, false, []⟩ := rfl
  obtain ⟨⟨haccepted, -, -⟩, -⟩ :=
    load_secret "" unsaid [] [("SECRET_KEY", some ownSecret)] 0
  obtain ⟨-, -, hkeeps | ⟨-, -, -, -, hmade, -⟩⟩ := haccepted _ hload
  · exact ⟨_, hload, hkeeps⟩
  · cases hmade

/-! Names of variables that must start with a prefix, and a secret under its own name: it is long
enough, but it is not seen, and that of another variable is taken. -/

def prefixed : Given :=
  ⟨[("_env_prefix", .str "APP_")], by decide, fun p hp _ => by
    rw [List.mem_singleton.mp hp]
    exact Or.inr ⟨_, rfl⟩⟩

def otherSecret : String := "mmmmmmmmmmmmmmmmmmmmmmmmmmmmmmmm"

def twoSecrets : List (String × String) :=
  [("SECRET_KEY", ownSecret), ("APP_SECRET_KEY", otherSecret)]

theorem prefix_hides_secret :
    ∃ l, load "" ⟨prefixed.values, twoSecrets, [], .ofInit prefixed.values, 0⟩ = .ok l ∧
      l.settings.secretKey = otherSecret ∧
      (Sources.mk prefixed.values twoSecrets [] {} 0).Writes ownSecret ∧
      ¬ (l.Keeps ⟨prefixed.values, twoSecrets, [], {}, 0⟩ ∨
        l.Makes "" ⟨prefixed.values, twoSecrets, [], {}, 0⟩) := by
  refine ⟨⟨{ secretKey := otherSecret }, false, []⟩, rfl, rfl, ?_, ?_⟩
  · exact ⟨.str ownSecret, Sources.value?_eq_some_iff.mp rfl, rfl⟩
  · have hvalue : (Sources.mk prefixed.values twoSecrets [] {} 0).value? "secret_key" =
        some (.str ownSecret) := rfl
    rintro (⟨⟨v, hheld, htext⟩, -⟩ | ⟨-, -, -, -, hmade, -⟩)
    · rw [Option.some.inj ((Sources.value?_eq_some_iff.mpr hheld).symm.trans hvalue)] at htext
      exact absurd (Except.ok.inj htext) (by decide)
    · cases hmade

end Gatehouse.Settings
