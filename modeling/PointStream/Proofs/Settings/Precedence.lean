import PointStream.Proofs.Settings.Endpoint
import PointStream.Settings.CommandLine

/-!
# Precedence of settings

A setting is read from one text: the value of its flag, or else its variable, or else the default. The flags may come in
any order, each once and with its value apart or attached, and what is not read for one setting bears on no other.

Main result: `load_by_precedence`.
-/

namespace PointStream

/-! ### Texts of settings -/

namespace Settings

/-- The text of a default. -/
def defaultText (s : Setting) : String :=
  let defaults : Settings := default
  match s with
  | .listen => defaults.listen.toText
  | .logFilter => defaults.logFilter
  | .logFormat => defaults.logFormat.name
  | .workers => toString defaults.workers

/-- Each setting is what its text says. -/
structure IsRead (text : Setting → String) (settings : Settings) : Prop where
  listen : Endpoint.ofText (text .listen) = .ok settings.listen
  logFilter : text .logFilter = settings.logFilter
  logFormat : LogFormat.ofText? (text .logFormat) = some settings.logFormat
  workers : workerCount? (text .workers) = some ⟨settings.workers, settings.workers_pos⟩

/-- Two records of settings have the same value of one setting. -/
def Agree (s : Setting) (first second : Settings) : Prop :=
  match s with
  | .listen => first.listen = second.listen
  | .logFilter => first.logFilter = second.logFilter
  | .logFormat => first.logFormat = second.logFormat
  | .workers => first.workers = second.workers

variable {text other : Setting → String} {settings others : Settings}

theorem IsRead.agree (first : IsRead text settings) (second : IsRead other others) {s : Setting}
    (same : text s = other s) : Agree s settings others := by
  cases s with
  | listen =>
    have read := first.listen
    rw [same, second.listen] at read
    exact (Except.ok.inj read).symm
  | logFilter => exact first.logFilter.symm.trans (same.trans second.logFilter)
  | logFormat =>
    have read := first.logFormat
    rw [same, second.logFormat] at read
    exact (Option.some.inj read).symm
  | workers =>
    have read := first.workers
    rw [same, second.workers] at read
    exact (congrArg Subtype.val (Option.some.inj read)).symm

theorem eq_of_agree (agree : ∀ s, Agree s settings others) : settings = others := by
  obtain ⟨listen, logFilter, logFormat, workers, _⟩ := settings
  obtain ⟨listen', logFilter', logFormat', workers', _⟩ := others
  obtain rfl : listen = listen' := agree .listen
  obtain rfl : logFilter = logFilter' := agree .logFilter
  obtain rfl : logFormat = logFormat' := agree .logFormat
  obtain rfl : workers = workers' := agree .workers
  rfl

theorem IsRead.unique (first : IsRead text settings) (second : IsRead text others) : settings = others :=
  eq_of_agree fun _ => first.agree second rfl

theorem toOption_ofText_eq_some_iff {t : String} {e : Endpoint} :
    (Endpoint.ofText t).toOption = some e ↔ Endpoint.ofText t = .ok e := by
  cases Endpoint.ofText t <;> simp [Except.toOption]

theorem exists_isRead_iff : (∃ settings, IsRead text settings) ↔ ∀ s, accepts s (text s) = true := by
  constructor
  · rintro ⟨settings, read⟩ s
    cases s with
    | listen => simp [accepts, toOption_ofText_eq_some_iff.mpr read.listen]
    | logFilter => rfl
    | logFormat => simp [accepts, read.logFormat]
    | workers => simp [accepts, read.workers]
  · intro accepted
    obtain ⟨endpoint, is_endpoint⟩ := Option.isSome_iff_exists.mp (accepted .listen)
    obtain ⟨logFormat, is_format⟩ := Option.isSome_iff_exists.mp (accepted .logFormat)
    obtain ⟨⟨workers, positive⟩, is_count⟩ := Option.isSome_iff_exists.mp (accepted .workers)
    rw [toOption_ofText_eq_some_iff] at is_endpoint
    exact ⟨⟨endpoint, text .logFilter, logFormat, workers, positive⟩, is_endpoint, rfl, is_format, is_count⟩

/-- The text of a default says the default. -/
theorem isRead_default : IsRead defaultText {} where
  listen := by decide +kernel
  logFilter := rfl
  logFormat := by decide +kernel
  workers := by decide +kernel

/-- A default that stands for no text is as if read from its own. -/
theorem bind_getD {α β : Type} (parse : String → Option α) {value : α} {text : String} (read : parse text = some value)
    (given : Option String) (next : α → Option β) :
    (match given with
      | some t => parse t >>= next
      | none => some value >>= next) = parse (given.getD text) >>= next := by
  cases given with
  | none => rw [Option.getD_none, read]
  | some t => rfl

theorem ofTexts?_eq (given : Setting → Option String) :
    ofTexts? given = do
      let listen ← (Endpoint.ofText ((given .listen).getD (defaultText .listen))).toOption
      let logFormat ← LogFormat.ofText? ((given .logFormat).getD (defaultText .logFormat))
      let ⟨workers, workers_pos⟩ ← workerCount? ((given .workers).getD (defaultText .workers))
      return { listen, logFormat, workers, workers_pos,
               logFilter := (given .logFilter).getD (defaultText .logFilter) } := by
  have listen_default := toOption_ofText_eq_some_iff.mpr isRead_default.listen
  refine (bind_getD (fun t => (Endpoint.ofText t).toOption) listen_default _ _).trans (bind_congr fun listen => ?_)
  refine (bind_getD LogFormat.ofText? isRead_default.logFormat _ _).trans (bind_congr fun logFormat => ?_)
  exact bind_getD workerCount? isRead_default.workers _ _

theorem ofTexts?_eq_some_iff {given : Setting → Option String} :
    ofTexts? given = some settings ↔ IsRead (fun s => (given s).getD (defaultText s)) settings := by
  rw [ofTexts?_eq]
  simp only [Option.bind_eq_bind, Option.bind_eq_some_iff, toOption_ofText_eq_some_iff]
  constructor
  · rintro ⟨listen, is_endpoint, logFormat, is_format, ⟨workers, positive⟩, is_count, made⟩
    cases made
    exact ⟨is_endpoint, rfl, is_format, is_count⟩
  · rintro ⟨is_endpoint, is_filter, is_format, is_count⟩
    refine ⟨_, is_endpoint, _, is_format, _, is_count, ?_⟩
    simp only [is_filter]
    rfl

theorem ofTexts?_some_iff : (ofTexts? fun s => some (text s)) = some settings ↔ IsRead text settings :=
  ofTexts?_eq_some_iff

/-- A missing text may as well be that of the default. -/
theorem ofTexts?_getD (given : Setting → Option String) :
    ofTexts? given = ofTexts? fun s => some ((given s).getD (defaultText s)) := by
  apply Option.ext
  intro settings
  rw [ofTexts?_eq_some_iff, ofTexts?_some_iff]

end Settings

namespace CommandLine

open Settings (IsRead accepts defaultText ofTexts?)

/-! ### Flags -/

/-- Arguments give a setting a value: behind its flag, where a dash would begin another flag, or attached to it. -/
inductive Gives : List String → Setting → String → Prop where
  | apart (s : Setting) {value : String} (plain : value.toList.head? ≠ some '-') : Gives ["--" ++ s.flag, value] s value
  | attached (s : Setting) (value : String) : Gives ["--" ++ s.flag ++ "=" ++ value] s value

/-- Arguments give values to settings, one after the other. -/
inductive GivesEach : List String → List (Setting × String) → Prop where
  | nil : GivesEach [] []
  | cons {words arguments : List String} {s : Setting} {value : String} {given : List (Setting × String)}
    (gives : Gives words s value) (others : GivesEach arguments given) :
    GivesEach (words ++ arguments) ((s, value) :: given)

theorem splitFlag_flag (s : Setting) : splitFlag s.flag.toList = (s.flag, none) := by
  cases s <;> decide +kernel

theorem splitFlag_attached (s : Setting) (value : String) :
    splitFlag (s.flag.toList ++ '=' :: value.toList) = (s.flag, some value) := by
  have plain : ∀ c ∈ s.flag.toList, decide (c ≠ '=') = true := by
    apply List.all_eq_true.mp
    cases s <;> decide +kernel
  have dropped : (s.flag.toList ++ '=' :: value.toList).dropWhile (· ≠ '=') = '=' :: value.toList := by
    rw [List.dropWhile_append_of_pos plain, List.dropWhile_cons_of_neg (by decide)]
  have taken : (s.flag.toList ++ '=' :: value.toList).takeWhile (· ≠ '=') = s.flag.toList := by
    rw [List.takeWhile_append_of_pos plain, List.takeWhile_cons_of_neg (by decide), List.append_nil]
  simp only [splitFlag, dropped, taken, String.ofList_toList]

/-- A flag is taken as the setting that it names. -/
theorem takeFlag_of_splitFlag {s : Setting} {body : List Char} {value : Option String}
    (named : splitFlag body = (s.flag, value)) (r : Reading) :
    takeFlag r body = r.settle >>= fun r =>
      match value with
      | some value => r.give s value
      | none => .ok { r with pending := some (s, none) } := by
  have not_help : s.flag ≠ "help" := by cases s <;> decide
  have not_version : s.flag ≠ "version" := by cases s <;> decide
  have found : Setting.all.find? (fun t => t.flag == s.flag) = some s := by cases s <;> decide +kernel
  cases value <;> simp only [takeFlag, named, if_neg not_help, if_neg not_version, found]

theorem readFrom_flag (r : Reading) (s : Setting) (tail : List Char) (rest : List String) :
    readFrom r (String.ofList ('-' :: '-' :: (s.flag.toList ++ tail)) :: rest)
      = takeFlag r (s.flag.toList ++ tail) >>= fun r => readFrom r rest := by
  obtain ⟨first, others, spelled⟩ : ∃ first others, s.flag.toList = first :: others := by
    cases s <;> exact ⟨_, _, rfl⟩
  simp only [readFrom, String.toList_ofList, spelled, List.cons_append]
  cases takeFlag r (first :: (others ++ tail)) <;> rfl

theorem readFrom_value {value : String} (plain : value.toList.head? ≠ some '-') (r : Reading) (s : Setting)
    (rest : List String) :
    readFrom { r with pending := some (s, none) } (value :: rest)
      = readFrom { r with pending := some (s, some value) } rest := by
  rw [readFrom]
  split
  next spelled => exact absurd (by rw [spelled]; rfl) plain
  next spelled => exact absurd (by rw [spelled]; rfl) plain
  next spelled => exact absurd (by rw [spelled]; rfl) plain
  next => rfl

/-! ### Readings -/

/-- Takes values one after the other. -/
def giveEach (r : Reading) : List (Setting × String) → Except Exit Reading
  | [] => .ok r
  | (s, value) :: given => r.give s value >>= fun r => giveEach r given

theorem Reading.settle_of_pending {r : Reading} (complete : r.pending = none) : r.settle = .ok r := by
  rw [settle, complete]

/-- A value that is taken leaves no flag open. -/
theorem Reading.settle_of_give {r next : Reading} {s : Setting} {value : String} (given : r.give s value = .ok next) :
    next.settle = .ok next ∧ next.awaiting? = none := by
  have complete : next.pending = none := by
    unfold give at given
    split at given
    next => cases given
    next =>
      split at given
      next =>
        cases given
        rfl
      next => cases given
  exact ⟨settle_of_pending complete, by rw [awaiting?, complete]⟩

theorem bind_congr_ok {α β : Type} {x : Except Exit α} {f g : α → Except Exit β} (same : ∀ a, x = .ok a → f a = g a) :
    x >>= f = x >>= g := by
  cases x with
  | error e => rfl
  | ok a => exact same a rfl

/-- Wherever the values stand, they are taken in the order of the flags. -/
theorem readFrom_of_givesEach {arguments : List String} {given : List (Setting × String)}
    (gives_each : GivesEach arguments given) {r : Reading} (complete : r.awaiting? = none) :
    readFrom r arguments = r.settle >>= fun r => giveEach r given := by
  induction gives_each generalizing r with
  | nil =>
    rw [readFrom]
    cases r.settle <;> rfl
  | @cons _ arguments s value given gives others ih =>
    cases gives with
    | apart _ plain =>
      have spelled : "--" ++ s.flag = String.ofList ('-' :: '-' :: (s.flag.toList ++ [])) := by
        rw [← String.toList_inj, String.toList_ofList, String.toList_append, List.append_nil]
        rfl
      rw [List.cons_append, List.cons_append, List.nil_append, spelled, readFrom_flag, List.append_nil,
        takeFlag_of_splitFlag (splitFlag_flag s), bind_assoc]
      refine bind_congr fun r => ?_
      -- The value is settled by what comes next.
      change readFrom { r with pending := some (s, none) } (value :: arguments) = _
      rw [readFrom_value plain, ih rfl]
      rfl
    | attached =>
      have spelled : "--" ++ s.flag ++ "=" ++ value
          = String.ofList ('-' :: '-' :: (s.flag.toList ++ '=' :: value.toList)) := by
        rw [← String.toList_inj, String.toList_ofList]
        simp only [String.toList_append, List.append_assoc]
        rfl
      rw [List.cons_append, List.nil_append, spelled, readFrom_flag, takeFlag_of_splitFlag (splitFlag_attached s value),
        bind_assoc]
      refine bind_congr fun r => bind_congr_ok fun next taken => ?_
      obtain ⟨settled, complete⟩ := Reading.settle_of_give taken
      rw [ih complete, settled]
      rfl

theorem lookup_eq_none_of_notMem {given : List (Setting × String)} {s : Setting} (absent : s ∉ given.map Prod.fst) :
    given.lookup s = none := by
  rw [List.lookup_eq_none_iff]
  intro entry member
  simp only [bne_iff_ne]
  rintro rfl
  exact absent (List.mem_map_of_mem member)

theorem give_of_fresh {r : Reading} {s : Setting} (fresh : r.given s = none) (value : String) :
    r.give s value = if accepts s value then
        .ok { given := fun t => if t = s then some value else r.given t, pending := none }
      else .error .valueValidation := by
  rw [Reading.give, fresh, Option.isSome_none, if_neg Bool.false_ne_true]

/-- Values for different settings are all taken, unless one is refused. -/
theorem giveEach_eq {given : List (Setting × String)} (once : (given.map Prod.fst).Nodup) {r : Reading}
    (fresh : ∀ s ∈ given.map Prod.fst, r.given s = none) :
    (giveEach r given).map Reading.given
      = if ∀ entry ∈ given, accepts entry.1 entry.2 = true then
          .ok fun s => (given.lookup s).or (r.given s)
        else .error .valueValidation := by
  induction given generalizing r with
  | nil => simp [giveEach, Except.map]
  | cons entry given ih =>
    obtain ⟨s, value⟩ := entry
    rw [List.map_cons, List.nodup_cons] at once
    obtain ⟨absent, once⟩ := once
    rw [giveEach, give_of_fresh (fresh s List.mem_cons_self)]
    by_cases accepted : accepts s value = true
    · rw [if_pos accepted]
      let next : Reading := { given := fun t => if t = s then some value else r.given t, pending := none }
      have later : ∀ t ∈ given.map Prod.fst, next.given t = none := by
        intro t member
        have apart : t ≠ s := fun same => absent (same ▸ member)
        exact (if_neg apart).trans (fresh t (List.mem_cons_of_mem _ member))
      have taken (t : Setting) : (given.lookup t).or (next.given t)
          = (((s, value) :: given).lookup t).or (r.given t) := by
        by_cases same : t = s
        · subst same
          simp [next, lookup_eq_none_of_notMem absent]
        · simp [next, same, List.lookup_cons, beq_eq_false_iff_ne.mpr same]
      change (giveEach next given).map Reading.given = _
      rw [ih once later, funext taken]
      simp only [List.forall_mem_cons, accepted, true_and]
    · rw [if_neg accepted, if_neg]
      · rfl
      · intro all
        exact accepted (all _ List.mem_cons_self)

/-! ### Loading -/

/-- The text that a setting is read from: that of its flag, else that of its variable, else that of its default. -/
def usedText (given : List (Setting × String)) (environment : Setting → Option String) (s : Setting) : String :=
  ((given.lookup s).or (environment s)).getD (defaultText s)

section

variable {arguments : List String} {given others : List (Setting × String)}
  {environment changed : Setting → Option String}

theorem lookup_eq_some_of_mem (once : (given.map Prod.fst).Nodup) {s : Setting} {value : String}
    (member : (s, value) ∈ given) : given.lookup s = some value := by
  induction given with
  | nil => cases member
  | cons entry given ih =>
    rw [List.map_cons, List.nodup_cons] at once
    rcases List.mem_cons.mp member with rfl | member
    · exact List.lookup_cons_self
    · have apart : s ≠ entry.1 := by
        rintro rfl
        exact once.1 (List.mem_map.mpr ⟨_, member, rfl⟩)
      rw [List.lookup_cons, beq_eq_false_iff_ne.mpr apart]
      exact ih once.2 member

/-- With one value for each setting, their order does not matter. -/
theorem lookup_of_perm (once : (given.map Prod.fst).Nodup) (reordered : given.Perm others) (s : Setting) :
    others.lookup s = given.lookup s := by
  by_cases present : s ∈ given.map Prod.fst
  · obtain ⟨⟨_, value⟩, member, rfl⟩ := List.mem_map.mp present
    have still_once : (others.map Prod.fst).Nodup := (reordered.map Prod.fst).nodup_iff.mp once
    rw [lookup_eq_some_of_mem once member, lookup_eq_some_of_mem still_once (reordered.mem_iff.mp member)]
  · have still_absent : s ∉ others.map Prod.fst := mt (reordered.map Prod.fst).mem_iff.mpr present
    rw [lookup_eq_none_of_notMem present, lookup_eq_none_of_notMem still_absent]

/-- A value that is refused is refused as the text of its setting. -/
theorem not_accepts_usedText (once : (given.map Prod.fst).Nodup)
    (refused : ¬∀ entry ∈ given, accepts entry.1 entry.2 = true) :
    ¬∀ s, accepts s (usedText given environment s) = true := by
  intro accepted
  apply refused
  rintro ⟨s, value⟩ member
  have used : usedText given environment s = value := by
    rw [usedText, lookup_eq_some_of_mem once member]
    rfl
  exact used ▸ accepted s

/-- What is loaded depends on the texts that the settings are read from, and on nothing else. -/
theorem load_eq (gives_each : GivesEach arguments given) (once : (given.map Prod.fst).Nodup) (program : String)
    (environment : Setting → Option String) :
    load (program :: arguments) environment
      = match ofTexts? fun s => some (usedText given environment s) with
        | some settings => .ok settings
        | none => .error .valueValidation := by
  have reading : readFrom {} arguments = giveEach {} given := readFrom_of_givesEach gives_each rfl
  have taken := @giveEach_eq given once {} fun _ _ => rfl
  rw [load, List.drop_one, List.tail_cons, reading]
  cases read : giveEach {} given with
  | ok r =>
    rw [read] at taken
    split at taken
    next accepted =>
      have values : r.given = fun s => (given.lookup s).or none := Except.ok.inj taken
      have texts : ofTexts? (fun s => r.given s <|> environment s)
          = ofTexts? fun s => some (usedText given environment s) := by
        rw [Settings.ofTexts?_getD, values]
        simp only [usedText, Option.or_none, Option.orElse_eq_orElse, Option.orElse_eq_or]
      rw [← texts]
      rfl
    next => cases taken
  | error e =>
    rw [read] at taken
    split at taken
    next => cases taken
    next refused =>
      -- The refused value is what its setting would be read from.
      have unread : ofTexts? (fun s => some (usedText given environment s)) = none := by
        rw [Option.eq_none_iff_forall_ne_some]
        intro settings read
        apply not_accepts_usedText once refused
        exact Settings.exists_isRead_iff.mp ⟨settings, Settings.ofTexts?_some_iff.mp read⟩
      rw [unread]
      cases taken
      rfl

theorem load_eq_ok_iff (gives_each : GivesEach arguments given) (once : (given.map Prod.fst).Nodup) {program : String}
    {settings : Settings} :
    load (program :: arguments) environment = .ok settings ↔ IsRead (usedText given environment) settings := by
  rw [load_eq gives_each once, ← Settings.ofTexts?_some_iff]
  cases ofTexts? fun s => some (usedText given environment s) <;> simp

/-- Equal used texts are loaded alike. -/
theorem load_congr {elsewhere : List String} (gives_each : GivesEach arguments given)
    (once : (given.map Prod.fst).Nodup) (gives_others : GivesEach elsewhere others)
    (others_once : (others.map Prod.fst).Nodup)
    (same : ∀ s, usedText others changed s = usedText given environment s) (program : String) :
    load (program :: elsewhere) changed = load (program :: arguments) environment := by
  rw [load_eq gives_each once, load_eq gives_others others_once]
  simp only [same]

/-- A variable counts only for a setting without a flag. -/
theorem usedText_congr (same : ∀ s, s ∉ given.map Prod.fst → changed s = environment s)
    (once : (given.map Prod.fst).Nodup) (s : Setting) :
    usedText given changed s = usedText given environment s := by
  unfold usedText
  by_cases flagged : s ∈ given.map Prod.fst
  · obtain ⟨⟨_, value⟩, member, rfl⟩ := List.mem_map.mp flagged
    rw [lookup_eq_some_of_mem once member, Option.some_or, Option.some_or]
  · rw [same s flagged]

/-- A command line of flags is loaded to what its used texts say, and is refused exactly when one of them says nothing.
So its flags may be put in another order, the variable of a setting that has a flag does not count, a setting with
neither has its default, and a setting depends on its own flag and variable only. -/
theorem load_by_precedence (gives_each : GivesEach arguments given) (once : (given.map Prod.fst).Nodup)
    (program : String) (environment : Setting → Option String) :
    (∀ settings, load (program :: arguments) environment = .ok settings
      ↔ IsRead (usedText given environment) settings) ∧
    ((∃ settings, load (program :: arguments) environment = .ok settings)
      ↔ ∀ s, accepts s (usedText given environment s) = true) ∧
    (∀ exit, load (program :: arguments) environment = .error exit → exit = .valueValidation) ∧
    (∀ reordered others, GivesEach reordered others → given.Perm others →
      load (program :: reordered) environment = load (program :: arguments) environment) ∧
    (∀ changed, (∀ s, s ∉ given.map Prod.fst → changed s = environment s) →
      load (program :: arguments) changed = load (program :: arguments) environment) ∧
    (∀ settings s, load (program :: arguments) environment = .ok settings → given.lookup s = none →
      environment s = none → Settings.Agree s settings {}) ∧
    ∀ elsewhere others changed settings otherwise s, GivesEach elsewhere others → (others.map Prod.fst).Nodup →
      load (program :: arguments) environment = .ok settings →
      load (program :: elsewhere) changed = .ok otherwise →
      others.lookup s = given.lookup s → changed s = environment s → Settings.Agree s settings otherwise := by
  refine ⟨?_, ?_, ?_, ?_, ?_, ?_, ?_⟩
  · intro settings
    exact load_eq_ok_iff gives_each once
  · simp only [load_eq_ok_iff gives_each once]
    exact Settings.exists_isRead_iff
  · intro exit refused
    rw [load_eq gives_each once] at refused
    cases read : ofTexts? fun s => some (usedText given environment s) with
    | none =>
      rw [read] at refused
      cases refused
      rfl
    | some settings =>
      rw [read] at refused
      cases refused
  · intro reordered others gives_others reorder
    have still_once : (others.map Prod.fst).Nodup := (reorder.map Prod.fst).nodup_iff.mp once
    apply load_congr gives_each once gives_others still_once
    intro s
    rw [usedText, lookup_of_perm once reorder, usedText]
  · intro changed same
    exact load_congr gives_each once gives_each once (usedText_congr same once) program
  · intro settings s loaded no_flag no_variable
    have used : usedText given environment s = defaultText s := by
      rw [usedText, no_flag, no_variable]
      rfl
    exact ((load_eq_ok_iff gives_each once).mp loaded).agree Settings.isRead_default used
  · intro elsewhere others changed settings otherwise s gives_others others_once loaded loaded_otherwise same_flag
      same_variable
    have used : usedText given environment s = usedText others changed s := by
      rw [usedText, usedText, same_flag, same_variable]
    exact ((load_eq_ok_iff gives_each once).mp loaded).agree
      ((load_eq_ok_iff gives_others others_once).mp loaded_otherwise) used

end

/-- Variables for three settings. -/
def threeVariables : Setting → Option String
  | .listen => some "tcp://0.0.0.0:7001"
  | .logFilter => some "cloudstreamd=debug"
  | .logFormat => none
  | .workers => some "0"

/-- Two of the variables do not count, though one of them is invalid. -/
theorem flagsBeforeVariables_loaded :
    load ["cloudstreamd", "--workers", "2", "--listen=unix:///run/d.sock"] threeVariables
      = .ok { listen := .unix "/run/d.sock", logFilter := "cloudstreamd=debug", workers := 2 } := by
  have workers : Gives ["--workers", "2"] .workers "2" := by
    have spelled : "--" ++ Setting.workers.flag = "--workers" := by decide +kernel
    rw [← spelled]
    exact .apart .workers (by decide +kernel)
  have listen : Gives ["--listen=unix:///run/d.sock"] .listen "unix:///run/d.sock" := by
    have spelled : "--" ++ Setting.listen.flag ++ "=" ++ "unix:///run/d.sock" = "--listen=unix:///run/d.sock" := by
      decide +kernel
    rw [← spelled]
    exact .attached .listen _
  have gives_each : GivesEach ["--workers", "2", "--listen=unix:///run/d.sock"]
      [(.workers, "2"), (.listen, "unix:///run/d.sock")] := .cons workers (.cons listen .nil)
  obtain ⟨loaded, -⟩ := load_by_precedence gives_each (by decide) "cloudstreamd" threeVariables
  apply (loaded _).mpr
  exact ⟨by decide +kernel, rfl, Settings.isRead_default.logFormat, by decide +kernel⟩

end CommandLine

end PointStream
