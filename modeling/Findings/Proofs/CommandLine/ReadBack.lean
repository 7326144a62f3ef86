import Mathlib.Data.List.TakeWhile
import Findings.Proofs.CommandLine.Spelling

/-!
# Spelled command lines are read back

A level that has taken some options, each once, is where it was before with these options given.
`givenBy` says what they give, and a word of options is one step of it. So the words of a level end
at its next name, or at the ending of the last level, with what all of them give; and what the outer
levels have been given comes to what the last one has.
-/
namespace Findings.CommandLine

open Findings.Record

variable {level next : Level} {done more : List Opt} {option : Opt} {given : Given} {word : Word}
  {text : String} {flag : Flag}

/-! ### What options give -/

/-- What a level has been given with one more option. -/
def Opt.give (option : Opt) (given : Given) : Given :=
  match option with
  | config path => { given with config := some path }
  | verbose => { given with verbose := true }
  | kind text => { given with kind := Kind.ofText? text }
  | json => { given with json := true }
  | file path => { given with file := some path }
  | force => { given with force := true }

/-- What options give, the last one first. -/
def givenBy (options : List Opt) : Given := options.foldr Opt.give {}

def Given.withArgument (given : Given) (argument : Option String) : Given :=
  { given with argument }

def Given.isMet (given : Given) : Flag → Bool
  | .config => given.config.isSome
  | .verbose => given.verbose
  | .kind => given.kind.isSome
  | .json => given.json
  | .file => given.file.isSome
  | .force => given.force
  | _ => false

/-- An option has a value that is allowed. -/
def Opt.IsAllowed : Opt → Prop
  | config path => path ≠ ""
  | kind text => (Kind.ofText? text).isSome
  | file path => path ≠ ""
  | _ => True

lemma isMet_give (hmet : (option.give given).isMet flag = true) :
    flag = option.flag ∨ given.isMet flag = true := by
  cases option <;> cases flag <;> first | exact .inl rfl | exact .inr hmet

lemma mem_of_isMet (hmet : (givenBy done).isMet flag = true) : flag ∈ done.map Opt.flag := by
  induction done with
  | nil => cases flag <;> cases hmet
  | cons option done ih =>
    rcases isMet_give hmet with rfl | hmet
    · exact List.mem_cons_self
    · exact List.mem_cons_of_mem _ (ih hmet)

lemma pathOf_eq {path : String} (hpath : path ≠ "") : pathOf path = .ok path := by
  have hempty : ¬path.isEmpty = true := fun h => hpath (String.isEmpty_iff.mp h)
  rw [pathOf, if_neg hempty]

/-- An option that has not been met is taken with an allowed value. -/
lemma accept_of_not_isMet (hallowed : option.IsAllowed) (hnew : given.isMet option.flag = false) :
    given.accept level (.flag option.flag) option.value? = .ok (option.give given) := by
  cases option with
  | config path =>
    have hnone : given.config.isSome = false := hnew
    show (do once given.config.isSome; return { given with config := some (← pathOf path) }) = _
    rw [hnone, pathOf_eq hallowed]
    rfl
  | verbose =>
    have hnone : given.verbose = false := hnew
    show (do once given.verbose; return { given with verbose := true }) = _
    rw [hnone]
    rfl
  | kind text =>
    obtain ⟨kind, hkind⟩ := Option.isSome_iff_exists.mp hallowed
    have hnone : given.kind.isSome = false := hnew
    have htaken : given.accept level (.flag .kind) (some text) =
        .ok { given with kind := some kind } := by
      simp [Given.accept, valueOf, once, hnone, hkind, bind, Except.bind, pure, Except.pure]
    exact htaken.trans (congrArg (fun kind => Except.ok { given with kind }) hkind.symm)
  | json =>
    have hnone : given.json = false := hnew
    show (do once given.json; return { given with json := true }) = _
    rw [hnone]
    rfl
  | file path =>
    have hnone : given.file.isSome = false := hnew
    show (do once given.file.isSome; return { given with file := some (← pathOf path) }) = _
    rw [hnone, pathOf_eq hallowed]
    rfl
  | force =>
    have hnone : given.force = false := hnew
    show (do once given.force; return { given with force := true }) = _
    rw [hnone]
    rfl

/-- What a level has been given within an outer one. -/
def Given.within (given outer : Given) : Given :=
  { given with
    config := given.config.or outer.config
    verbose := given.verbose || outer.verbose }

lemma give_within (option : Opt) (given outer : Given) :
    option.give (given.within outer) = (option.give given).within outer := by
  cases option <;> rfl

/-- Options of every level may be given at an outer one. -/
lemma givenBy_append {inner outer : List Opt} (houter : ∀ option ∈ outer, option.isGlobal = true) :
    givenBy (inner ++ outer) = (givenBy inner).within (givenBy outer) := by
  induction inner with
  | nil =>
    induction outer with
    | nil => rfl
    | cons option outer ih =>
      have hrest : givenBy outer = Given.within {} (givenBy outer) :=
        ih fun other hother => houter other (List.mem_cons_of_mem _ hother)
      have hglobal := houter option List.mem_cons_self
      show option.give (givenBy outer) = Given.within {} (option.give (givenBy outer))
      rw [hrest]
      cases option with
      | config path => rfl
      | verbose => rfl
      | _ => cases hglobal
  | cons option inner ih =>
    show option.give (givenBy (inner ++ outer)) = (option.give (givenBy inner)).within _
    rw [ih, give_within]

/-- Different options are given in any order. -/
lemma give_comm {other : Opt} (hother : option.flag ≠ other.flag) (given : Given) :
    option.give (other.give given) = other.give (option.give given) := by
  cases option <;> cases other <;> first | rfl | exact absurd rfl hother

lemma givenBy_perm (hperm : done.Perm more) (hnodup : (done.map Opt.flag).Nodup) :
    givenBy done = givenBy more := by
  apply hperm.foldr_eq'
  intro first hfirst second hsecond given
  by_cases hsame : first.flag = second.flag
  · rw [List.inj_on_of_nodup_map hnodup hfirst hsecond hsame]
  · exact give_comm (Ne.symm hsame) given

/-! ### Words -/

/-- A level has an option, by its name and by its letter, and allows its value. -/
structure Level.Offers (level : Level) (option : Opt) : Prop where
  allowed : option.IsAllowed
  named : level.named? option.name = some option.flag
  lettered : ∀ letter : Letter, letter.opt = option →
    level.lettered? letter.char = some option.flag

/-- The state of a level that has been given something. -/
def State.after (options : List Opt) : State := { given := givenBy options }

lemma takeFlag_after (level : Level) (hallowed : option.IsAllowed)
    (hnew : option.flag ∉ done.map Opt.flag) :
    (State.after done).takeFlag level option.flag option.value? =
      .ok (State.after (option :: done)) := by
  have hmet : (givenBy done).isMet option.flag = false := by
    by_contra hmet
    exact hnew (mem_of_isMet (Bool.not_eq_false _ ▸ hmet))
  have haccept : (State.after done).given.accept level (.flag option.flag) option.value? = _ :=
    accept_of_not_isMet hallowed hmet
  show (do
    let given ← (State.after done).given.accept level (.flag option.flag) option.value?
    return { State.after done with given, awaiting := false }) = _
  rw [haccept]
  rfl

lemma takeNamed_after (hoffers : level.Offers option)
    (hnew : option.flag ∉ done.map Opt.flag) :
    (State.after done).takeNamed level option.name option.value? =
      .ok (State.after (option :: done)) := by
  have htaken := takeFlag_after level hoffers.allowed hnew
  rw [State.takeNamed, hoffers.named]
  cases option <;> exact htaken

/-- Letters are taken one after another. -/
lemma takeLetters_after (letters : List Letter)
    (hoffers : ∀ letter ∈ letters, level.Offers letter.opt)
    (hnodup : ((letters.map Letter.opt).reverse ++ done).map Opt.flag |>.Nodup) :
    (State.after done).takeLetters level (letters.map Letter.char) =
      .ok (State.after ((letters.map Letter.opt).reverse ++ done)) := by
  -- what has been taken stands last first, so each letter goes in front of it
  induction letters generalizing done with
  | nil => rfl
  | cons letter letters ih =>
    have hlist : ((letter :: letters).map Letter.opt).reverse ++ done =
        (letters.map Letter.opt).reverse ++ letter.opt :: done := by
      simp
    rw [hlist] at hnodup ⊢
    have hoffered := hoffers letter List.mem_cons_self
    have hnew : letter.opt.flag ∉ done.map Opt.flag := by
      have hlast := (List.nodup_append.mp ((List.map_append ..) ▸ hnodup)).2.1
      exact (List.nodup_cons.mp hlast).1
    have htaken := takeFlag_after level hoffered.allowed hnew
    have hrest := ih (fun other hother => hoffers other (List.mem_cons_of_mem _ hother)) hnodup
    rw [List.map_cons, State.takeLetters, hoffered.lettered letter rfl]
    have hvalue : letter.opt.flag.hasValue = false := by cases letter <;> rfl
    have hnone : letter.opt.value? = none := by cases letter <;> rfl
    rw [hnone] at htaken
    simp only [hvalue, htaken]
    exact hrest

/-- An argument behind two hyphens is a name, and a value behind the first equals sign. -/
lemma take_of_hyphens {s : State} {value : String} {chars : List Char}
    (hplain : s.plainOnly = false) (htext : value.toList = '-' :: '-' :: chars)
    (hchars : chars ≠ []) :
    s.take level value = s.takeNamed level (String.ofList (chars.takeWhile (· != '=')))
      (if (chars.dropWhile (· != '=')).isEmpty then none
        else some (String.ofList ((chars.dropWhile (· != '=')).drop 1))) := by
  obtain ⟨c, rest, rfl⟩ := List.exists_cons_of_ne_nil hchars
  rw [State.take, hplain, htext]
  rfl

/-- The names of options have characters, and none of them is an equals sign. -/
lemma Opt.name_spec (option : Opt) :
    (∀ c ∈ option.name.toList, (c != '=') = true) ∧ option.name.toList ≠ [] := by
  cases option <;> simp [Opt.name]

lemma take_named (hoffers : level.Offers option) (hnew : option.flag ∉ done.map Opt.flag) :
    (State.after done).take level (Word.named option).text =
      .ok (State.after (option :: done)) := by
  obtain ⟨hname, hne⟩ := option.name_spec
  have htaken := takeNamed_after hoffers hnew
  cases hvalue : option.value? with
  | none =>
    have htext : (Word.named option).text.toList = '-' :: '-' :: option.name.toList := by
      simp [Word.text, hvalue]
    rw [take_of_hyphens rfl htext hne, List.takeWhile_eq_self_iff.mpr hname,
      List.dropWhile_eq_nil_iff.mpr hname, String.ofList_toList, ← htaken, hvalue]
    rfl
  | some value =>
    have htext : (Word.named option).text.toList =
        '-' :: '-' :: (option.name.toList ++ '=' :: value.toList) := by
      simp [Word.text, hvalue]
    rw [take_of_hyphens rfl htext (by simp [hne]), List.takeWhile_append_of_pos hname,
      List.dropWhile_append_of_pos hname, ← htaken, hvalue]
    simp

lemma take_lettered {first : Letter} {letters : List Letter}
    (hoffers : ∀ letter ∈ first :: letters, level.Offers letter.opt)
    (hnodup : (((first :: letters).map Letter.opt).reverse ++ done).map Opt.flag |>.Nodup) :
    (State.after done).take level (Word.lettered first letters).text =
      .ok (State.after (((first :: letters).map Letter.opt).reverse ++ done)) := by
  have htext : (Word.lettered first letters).text.toList =
      '-' :: first.char :: letters.map Letter.char := by
    simp [Word.text]
  rw [← takeLetters_after (first :: letters) hoffers hnodup, State.take, htext]
  cases first <;> rfl

/-- A level takes a word, and all of its options are given. -/
theorem take_word (hoffers : ∀ option ∈ word.opts, level.Offers option)
    (hnodup : ((word.opts.reverse ++ done).map Opt.flag).Nodup) :
    (State.after done).take level word.text = .ok (State.after (word.opts.reverse ++ done)) := by
  cases word with
  | named option =>
    have hmem : option ∈ (Word.named option).opts := List.mem_singleton_self _
    exact take_named (hoffers option hmem) (List.nodup_cons.mp hnodup).1
  | lettered first letters =>
    exact take_lettered (fun letter hletter => hoffers _ (List.mem_map_of_mem hletter)) hnodup

/-! ### Levels -/

/-- No name begins with a hyphen. -/
lemma branch?_of_hyphen {s : State} {value : String} (htext : value.toList.head? = some '-') :
    s.branch? level value = none := by
  have hnames : ∀ entry ∈ level.branches, entry.1.toList.head? ≠ some '-' := by
    cases level <;> simp [Level.branches]
  have hnone : level.branch? value = none := by
    rw [Level.branch?, Option.map_eq_none_iff, List.find?_eq_none]
    intro entry hentry hvalue
    obtain rfl := beq_iff_eq.mp hvalue
    exact hnames entry hentry htext
  rw [State.branch?, hnone, ite_self]

lemma Word.head?_text (word : Word) : word.text.toList.head? = some '-' := by
  cases word with
  | named option => cases hvalue : option.value? <;> simp [Word.text, hvalue]
  | lettered first letters => simp [Word.text]

/-- A level takes its words, and all of their options are given. -/
theorem readLevel_words (done : List Opt) (words : List Word) (rest : List String)
    (hoffers : ∀ option ∈ words.flatMap Word.opts, level.Offers option)
    (hnodup : (((words.flatMap Word.opts).reverse ++ done).map Opt.flag).Nodup) :
    readLevel level (State.after done) (words.map Word.text ++ rest) =
      readLevel level (State.after ((words.flatMap Word.opts).reverse ++ done)) rest := by
  induction words generalizing done with
  | nil => rfl
  | cons word words ih =>
    have hlist : ((word :: words).flatMap Word.opts).reverse ++ done =
        (words.flatMap Word.opts).reverse ++ (word.opts.reverse ++ done) := by
      simp
    have hleft : ∀ option ∈ word.opts, option ∈ (word :: words).flatMap Word.opts := fun option h =>
      List.mem_flatMap.mpr ⟨word, List.mem_cons_self, h⟩
    have hright : ∀ option ∈ words.flatMap Word.opts,
        option ∈ (word :: words).flatMap Word.opts := by
      intro option h
      rw [List.flatMap_cons]
      exact List.mem_append_right _ h
    rw [hlist] at hnodup ⊢
    have hword : (State.after done).take level word.text =
        .ok (State.after (word.opts.reverse ++ done)) :=
      take_word (fun option h => hoffers option (hleft option h))
        (List.nodup_append.mp (List.map_append ▸ hnodup)).2.1
    rw [List.map_cons, List.cons_append, readLevel, branch?_of_hyphen word.head?_text, hword]
    exact ih _ (fun option h => hoffers option (hright option h)) hnodup

/-- A level gives way to the one that its next name leads to. -/
lemma readFrom_name (depth : Nat) (words : List Word) {name : String} (rest : List String)
    (hbranch : level.branch? name = some (.level next))
    (hoffers : ∀ option ∈ words.flatMap Word.opts, level.Offers option)
    (hnodup : ((words.flatMap Word.opts).reverse.map Opt.flag).Nodup) :
    readFrom (depth + 1) level (words.map Word.text ++ name :: rest) =
      (readFrom depth next rest).map (·.under (givenBy (words.flatMap Word.opts).reverse)) := by
  have hwords := readLevel_words [] words (name :: rest) hoffers
    ((List.append_nil _).symm ▸ hnodup)
  rw [List.append_nil, readLevel] at hwords
  have hname : (State.after (words.flatMap Word.opts).reverse).branch? level name =
      some (.level next) := hbranch
  simp only [hname] at hwords
  rw [readFrom, show readLevel level {} _ = _ from hwords]
  show (do
    let inner ← readFrom depth next rest
    let s ← (State.after (words.flatMap Word.opts).reverse).settle level
    return inner.under s.given) = _
  cases readFrom depth next rest <;> rfl

/-- The last level of a command. -/
def Command.leaf : Command → Leaf
  | init => .init
  | stats => .stats
  | search _ _ _ => .search
  | ingest _ => .ingest
  | purgeSession _ => .purgeSession
  | configShow => .configShow
  | configValidate _ => .configValidate
  | configInit _ => .configInit

lemma Command.hasArgument_leaf (command : Command) :
    (Level.leaf command.leaf).hasArgument = command.argument?.isSome := by
  cases command <;> rfl

/-- Behind two hyphens the next argument is the plain one. -/
lemma readLevel_argument (hargument : level.hasArgument = true) (argument : String) :
    readLevel level (State.after done) ["--", argument] =
      .ok ({ given := givenBy done, pending := some (.argument, some argument), plainOnly := true,
             argumentTaken := true }, none) := by
  have htaken : State.takeArgument level { given := givenBy done, plainOnly := true } argument =
      .ok { given := givenBy done, pending := some (.argument, some argument), plainOnly := true,
            argumentTaken := true } := by
    rw [State.takeArgument, hargument]
    rfl
  rw [readLevel, branch?_of_hyphen (by decide)]
  show readLevel level { given := givenBy done, plainOnly := true } [argument] = _
  rw [readLevel]
  show (State.takeArgument level { given := givenBy done, plainOnly := true } argument).bind _ = _
  rw [htaken]
  rfl

/-- The plain argument of a command is taken as it is. -/
lemma accept_argument {command : Command} {argument : String}
    (hargument : command.argument? = some argument) (hfile : command.file? ≠ some "") :
    given.accept (.leaf command.leaf) .argument (some argument) =
      .ok (given.withArgument (some argument)) := by
  cases command with
  | search query kind json => rfl
  | purgeSession session => rfl
  | ingest file =>
    obtain rfl := Option.some.inj hargument
    have hpath : file ≠ "" := fun hempty => hfile (congrArg some hempty)
    show (do return { given with argument := some (← pathOf file) }) = _
    rw [pathOf_eq hpath]
    rfl
  | _ => cases hargument

lemma givenBy_withArgument_none (options : List Opt) :
    (givenBy options).withArgument none = givenBy options := by
  induction options with
  | nil => rfl
  | cons option options ih =>
    show (option.give (givenBy options)).withArgument none = option.give (givenBy options)
    rw [← ih]
    cases option <;> rfl

/-- The last level of a command ends with its plain argument given. -/
lemma readLevel_ending (done : List Opt) {command : Command} {ending : List String}
    (hending : ending ∈ command.endings) (hfile : command.file? ≠ some "") :
    ∃ s s' : State, readLevel (.leaf command.leaf) (State.after done) ending = .ok (s, none) ∧
      s.settle (.leaf command.leaf) = .ok s' ∧
      s'.given = (givenBy done).withArgument command.argument? := by
  have hhas := command.hasArgument_leaf
  unfold Command.endings at hending
  cases hargument : command.argument? with
  | none =>
    have hnone := (givenBy_withArgument_none done).symm
    rw [hargument] at hending
    rcases List.mem_pair.mp hending with rfl | rfl
    · exact ⟨State.after done, State.after done, rfl, rfl, hnone⟩
    · refine ⟨{ State.after done with plainOnly := true }, _, ?_, rfl, hnone⟩
      rw [readLevel, branch?_of_hyphen (by decide)]
      rfl
  | some argument =>
    -- the argument is still awaiting its check when the arguments end
    rw [hargument] at hending hhas
    obtain rfl := List.mem_singleton.mp hending
    let given : Given := (givenBy done).withArgument (some argument)
    refine ⟨_, { given, plainOnly := true, argumentTaken := true },
      readLevel_argument hhas argument, ?_, rfl⟩
    show (do
      let given ← (givenBy done).accept (.leaf command.leaf) .argument (some argument)
      return { given, plainOnly := true, argumentTaken := true : State }) = _
    rw [accept_argument hargument hfile]
    rfl

/-- The last level reads its words and its ending. -/
lemma readFrom_leaf (depth : Nat) (words : List Word) {command : Command} {ending : List String}
    (hoffers : ∀ option ∈ words.flatMap Word.opts, (Level.leaf command.leaf).Offers option)
    (hnodup : ((words.flatMap Word.opts).reverse.map Opt.flag).Nodup)
    (hending : ending ∈ command.endings) (hfile : command.file? ≠ some "") :
    readFrom (depth + 1) (.leaf command.leaf) (words.map Word.text ++ ending) =
      (command.leaf.command
        ((givenBy (words.flatMap Word.opts).reverse).withArgument command.argument?)).map
          fun command => ⟨(givenBy (words.flatMap Word.opts).reverse).config,
            (givenBy (words.flatMap Word.opts).reverse).verbose, command⟩ := by
  have hwords := readLevel_words [] words ending hoffers
    ((List.append_nil _).symm ▸ hnodup)
  obtain ⟨s, s', hread, hsettle, hgiven⟩ :=
    readLevel_ending (words.flatMap Word.opts).reverse hending hfile
  rw [List.append_nil, hread] at hwords
  rw [readFrom, show readLevel _ {} _ = _ from hwords]
  show (do
    let s ← s.settle (.leaf command.leaf)
    let command ← command.leaf.command s.given
    return (⟨s.given.config, s.given.verbose, command⟩ : Invocation)) = _
  rw [hsettle]
  show (do
    let command ← command.leaf.command s'.given
    return (⟨s'.given.config, s'.given.verbose, command⟩ : Invocation)) = _
  rw [hgiven]
  rfl

/-- Every level has the options of every level. -/
lemma Level.offers_of_isGlobal (hglobal : option.isGlobal = true) (hallowed : option.IsAllowed) :
    level.Offers option := by
  cases option with
  | config path => exact ⟨hallowed, rfl, fun letter hletter => by cases letter <;> cases hletter⟩
  | verbose =>
    refine ⟨hallowed, rfl, fun letter hletter => ?_⟩
    cases letter with
    | verbose => rfl
    | force => cases hletter
  | _ => cases hglobal

/-- The level that names lead to. -/
def Level.along (level : Level) : List String → Option Level
  | [] => some level
  | name :: names =>
    match level.branch? name with
    | some (.level next) => next.along names
    | _ => none

lemma Level.along_cons {name : String} {names : List String}
    (hlead : level.along (name :: names) = some next) :
    ∃ below, level.branch? name = some (.level below) ∧ below.along names = some next := by
  rw [Level.along] at hlead
  split at hlead
  case h_1 below hbranch => exact ⟨below, hbranch, hlead⟩
  case h_2 => cases hlead

lemma under_under (i : Invocation) (given outer : Given) :
    (i.under given).under outer = i.under (given.within outer) := by
  simp only [Invocation.under, Given.within, Option.or_assoc, Bool.or_assoc]

lemma under_empty (i : Invocation) : i.under {} = i := by
  simp only [Invocation.under, Option.or_none, Bool.or_false]

/-- The levels of names give way to the last one. -/
theorem readFrom_steps (depth : Nat) (steps : List Step) (rest : List String)
    (hlead : level.along (steps.map Step.name) = some next)
    (hopts : ∀ option ∈ steps.flatMap Step.opts, option.isGlobal = true ∧ option.IsAllowed)
    (hnodup : ((steps.flatMap Step.opts).map Opt.flag).Nodup) :
    readFrom (steps.length + depth) level (steps.flatMap Step.args ++ rest) =
      (readFrom depth next rest).map (·.under (givenBy (steps.flatMap Step.opts).reverse)) := by
  -- along the names, from every level: what a level has been given lies around all that is
  -- given behind its name
  induction steps generalizing level with
  | nil =>
    obtain rfl := Option.some.inj hlead
    rw [List.length_nil, Nat.zero_add]
    show readFrom depth level rest = (readFrom depth level rest).map (·.under {})
    cases readFrom depth level rest with
    | error f => rfl
    | ok i => exact congrArg Except.ok (under_empty i).symm
  | cons step steps ih =>
    rw [List.flatMap_cons] at hopts hnodup ⊢
    rw [List.map_append] at hnodup
    obtain ⟨hnodupStep, hnodupRest, -⟩ := List.nodup_append.mp hnodup
    obtain ⟨below, hbranch, hbelow⟩ := Level.along_cons hlead
    have hstepOpts : ∀ option ∈ step.opts, option.isGlobal = true ∧ option.IsAllowed :=
      fun option h => hopts option (List.mem_append_left _ h)
    have hrest := ih hbelow (fun option h => hopts option (List.mem_append_right _ h)) hnodupRest
    have hstep := readFrom_name (steps.length + depth) step.words (steps.flatMap Step.args ++ rest)
      hbranch
      (fun option h => Level.offers_of_isGlobal (hstepOpts option h).1 (hstepOpts option h).2)
      (by rwa [List.map_reverse, List.nodup_reverse])
    have hargs : step.args ++ steps.flatMap Step.args ++ rest =
        step.words.map Word.text ++ step.name :: (steps.flatMap Step.args ++ rest) := by
      simp [Step.args]
    have hgiven : givenBy (step.opts ++ steps.flatMap Step.opts).reverse =
        (givenBy (steps.flatMap Step.opts).reverse).within (givenBy step.opts.reverse) := by
      rw [List.reverse_append]
      exact givenBy_append fun option h => (hstepOpts option (List.mem_reverse.mp h)).1
    rw [List.length_cons, Nat.add_right_comm, List.flatMap_cons, hargs, hstep, hrest, hgiven]
    cases readFrom depth next rest with
    | error f => rfl
    | ok i => exact congrArg Except.ok (under_under i _ _)

/-! ### Invocations -/

/-- What a command is given by options. -/
def Command.gives : Command → Given
  | search _ kind json => { kind, json }
  | configValidate file => { file }
  | configInit force => { force }
  | _ => {}

def Invocation.gives (i : Invocation) : Given :=
  { i.command.gives with config := i.config, verbose := i.verbose }

variable {i : Invocation} {command : Command}

lemma ofText?_eq_some {kind : Kind} (htext : text.toLower = kind.name) :
    Kind.ofText? text = some kind := by
  rw [Kind.ofText?, htext, Kind.ofName?_name]

lemma givenBy_command (htext : ∀ kind ∈ command.kind?, text.toLower = kind.name) :
    givenBy (command.opts text) = command.gives := by
  cases command with
  | search query kind json =>
    cases kind with
    | none => cases json <;> rfl
    | some kind =>
      have hkind : Kind.ofText? text = some kind := ofText?_eq_some (htext kind rfl)
      cases json
      · exact congrArg (fun kind => ({ kind } : Given)) hkind
      · exact congrArg (fun kind => ({ kind, json := true } : Given)) hkind
  | configValidate file => cases file <;> rfl
  | configInit force => cases force <;> rfl
  | _ => rfl

/-- The options of an invocation give what it is given. -/
lemma givenBy_opts (htext : ∀ kind ∈ i.command.kind?, text.toLower = kind.name) :
    givenBy (i.opts text) = i.gives := by
  have hcommand := givenBy_command htext
  have hown : i.command.gives = { i.command.gives with config := none, verbose := false } := by
    cases i.command <;> rfl
  obtain ⟨config, verbose, command⟩ := i
  cases config with
  | none =>
    cases verbose with
    | false => exact hcommand.trans hown
    | true =>
      show Opt.give .verbose (givenBy (command.opts text)) = _
      rw [hcommand, hown]
      rfl
  | some path =>
    cases verbose with
    | false =>
      show Opt.give (.config path) (givenBy (command.opts text)) = _
      rw [hcommand, hown]
      rfl
    | true =>
      show Opt.give (.config path) (Opt.give .verbose (givenBy (command.opts text))) = _
      rw [hcommand]
      rfl

lemma flags_command_sublist (command : Command) (text : String) :
    ((command.opts text).map Opt.flag).Sublist [.kind, .json, .file, .force] := by
  cases command with
  | search query kind json =>
    have hkind : ((if kind.isSome then [Opt.kind text] else []).map Opt.flag).Sublist [.kind] := by
      cases kind
      · exact List.nil_sublist _
      · exact .refl _
    have hjson : ((if json then [Opt.json] else []).map Opt.flag).Sublist
        [.json, .file, .force] := by
      cases json <;> decide
    rw [Command.opts, List.map_append]
    exact hkind.append hjson
  | configValidate file =>
    cases file with
    | none => exact List.nil_sublist _
    | some path => exact (by decide : [Flag.file].Sublist [.kind, .json, .file, .force])
  | configInit force =>
    cases force with
    | false => exact List.nil_sublist _
    | true => exact (by decide : [Flag.force].Sublist [.kind, .json, .file, .force])
  | _ => exact List.nil_sublist _

/-- An invocation has each option once. -/
lemma flags_opts_nodup (i : Invocation) (text : String) :
    ((i.opts text).map Opt.flag).Nodup := by
  have hconfig : ((i.config.toList.map Opt.config).map Opt.flag).Sublist [.config] := by
    cases i.config
    · exact List.nil_sublist _
    · exact .refl _
  have hverbose : ((if i.verbose then [Opt.verbose] else []).map Opt.flag).Sublist [.verbose] := by
    cases i.verbose <;> decide
  have hall : ((i.opts text).map Opt.flag).Sublist
      ([.config] ++ [.verbose] ++ [.kind, .json, .file, .force]) := by
    rw [Invocation.opts, List.map_append, List.map_append]
    exact (hconfig.append hverbose).append (flags_command_sublist i.command text)
  exact hall.nodup (by decide)

lemma offers_command (hfile : command.file? ≠ some "")
    (htext : ∀ kind ∈ command.kind?, text.toLower = kind.name)
    (hmem : option ∈ command.opts text) : (Level.leaf command.leaf).Offers option := by
  cases command with
  | search query kind json =>
    rcases List.mem_append.mp hmem with hkind | hjson
    · cases kind with
      | none => cases hkind
      | some kind =>
        obtain rfl := List.mem_singleton.mp hkind
        have hallowed : (Kind.ofText? text).isSome := by
          rw [ofText?_eq_some (htext kind rfl)]
          rfl
        exact ⟨hallowed, rfl, fun letter h => by cases letter <;> cases h⟩
    · cases json with
      | false => cases hjson
      | true =>
        obtain rfl := List.mem_singleton.mp hjson
        exact ⟨trivial, rfl, fun letter h => by cases letter <;> cases h⟩
  | configValidate file =>
    cases file with
    | none => cases hmem
    | some path =>
      obtain rfl := List.mem_singleton.mp hmem
      have hallowed : path ≠ "" := fun hempty => hfile (congrArg some hempty)
      exact ⟨hallowed, rfl, fun letter h => by cases letter <;> cases h⟩
  | configInit force =>
    cases force with
    | false => cases hmem
    | true =>
      obtain rfl := List.mem_singleton.mp hmem
      refine ⟨trivial, rfl, fun letter h => ?_⟩
      cases letter with
      | verbose => cases h
      | force => rfl
  | _ => cases hmem

/-- The last level of a command has the options of an invocation. -/
lemma offers_of_mem_opts (hpaths : i.HasPaths)
    (htext : ∀ kind ∈ i.command.kind?, text.toLower = kind.name) (hmem : option ∈ i.opts text) :
    (Level.leaf i.command.leaf).Offers option := by
  rcases List.mem_append.mp hmem with hglobal | hcommand
  · rcases List.mem_append.mp hglobal with hconfig | hverbose
    · obtain ⟨path, hpath, rfl⟩ := List.mem_map.mp hconfig
      have hnotEmpty : path ≠ "" := by
        rintro rfl
        exact hpaths.config (Option.mem_toList.mp hpath)
      exact Level.offers_of_isGlobal rfl hnotEmpty
    · split_ifs at hverbose
      · obtain rfl := List.mem_singleton.mp hverbose
        exact Level.offers_of_isGlobal rfl trivial
      · cases hverbose
  · exact offers_command hpaths.file htext hcommand

lemma Command.along_names (command : Command) :
    Level.root.along command.names = some (.leaf command.leaf) := by
  cases command <;> rfl

/-- A command has at most two names. -/
lemma Command.exists_depth (command : Command) :
    ∃ depth, 3 = command.names.length + (depth + 1) := by
  cases command with
  | configShow => exact ⟨0, rfl⟩
  | configValidate file => exact ⟨0, rfl⟩
  | configInit force => exact ⟨0, rfl⟩
  | _ => exact ⟨1, rfl⟩

lemma Leaf.command_within (leaf : Leaf) (given outer : Given) (argument : Option String) :
    leaf.command ((given.within outer).withArgument argument) =
      leaf.command (given.withArgument argument) := by
  cases leaf <;> rfl

/-- The last level of a command makes it from what its invocation is given. -/
lemma Invocation.command_leaf (i : Invocation) :
    i.command.leaf.command (i.gives.withArgument i.command.argument?) = .ok i.command := by
  obtain ⟨config, verbose, command⟩ := i
  cases command <;> rfl

/-- Every invocation whose paths are not empty has spellings, and what is read from any of them is
the invocation. -/
theorem spellings_are_read_back (i : Invocation) (hpaths : i.HasPaths) :
    (∃ s : Spelling, s.Spells i) ∧ ∀ s : Spelling, s.Spells i → read s.args = .ok i := by
  refine ⟨Spelling.exists_spells i, fun s ⟨hnames, hglobal, ⟨text, htext, hperm⟩, hending⟩ => ?_⟩
  have hnodup : ((s.outer ++ s.inner).map Opt.flag).Nodup :=
    (hperm.map Opt.flag).nodup_iff.mpr (flags_opts_nodup i text)
  have hoffers : ∀ option ∈ s.outer ++ s.inner, (Level.leaf i.command.leaf).Offers option :=
    fun option h => offers_of_mem_opts hpaths htext (hperm.mem_iff.mp h)
  -- the options of all levels give what the invocation is given
  have hgives : (givenBy s.inner.reverse).within (givenBy s.outer.reverse) = i.gives := by
    rw [← givenBy_append fun option h => hglobal option (List.mem_reverse.mp h),
      ← List.reverse_append, ← givenBy_opts htext]
    refine givenBy_perm ((List.reverse_perm _).trans hperm) ?_
    rwa [List.map_reverse, List.nodup_reverse]
  rw [List.map_append] at hnodup
  obtain ⟨hnodupOuter, hnodupInner, -⟩ := List.nodup_append.mp hnodup
  obtain ⟨depth, hdepth⟩ : ∃ depth, 3 = s.steps.length + (depth + 1) := by
    have hlength : s.steps.length = i.command.names.length := by
      rw [← hnames, List.length_map]
    rw [hlength]
    exact i.command.exists_depth
  -- the outer levels hand over to the last one, which makes the command
  have hsteps := readFrom_steps (depth + 1) s.steps (s.words.map Word.text ++ s.ending)
    (hnames ▸ i.command.along_names)
    (fun option h => ⟨hglobal option h, (hoffers option (List.mem_append_left _ h)).allowed⟩)
    hnodupOuter
  have hleaf := readFrom_leaf depth s.words
    (fun option h => hoffers option (List.mem_append_right _ h))
    (by rwa [List.map_reverse, List.nodup_reverse]) hending hpaths.file
  have hcommand : i.command.leaf.command ((givenBy (s.words.flatMap Word.opts).reverse).withArgument
      i.command.argument?) = .ok i.command := by
    rw [← Leaf.command_within _ _ (givenBy s.outer.reverse)]
    exact hgives ▸ i.command_leaf
  rw [read, hdepth, Spelling.args, hsteps, hleaf, hcommand]
  exact congrArg (fun given => Except.ok (⟨given.config, given.verbose, i.command⟩ : Invocation))
    hgives

/-- A query of two hyphens, and a path that looks like an option. -/
theorem spellings_are_read_back_odd_texts :
    let i : Invocation := ⟨some "--config=x", true, .search "--" (some .blocker) true⟩
    let s : Spelling := ⟨[⟨[.lettered .verbose []], "search"⟩],
      [.named .json, .named (.kind "BLOCKER"), .named (.config "--config=x")], ["--", "--"]⟩
    i.HasPaths ∧ s.Spells i ∧
      s.args = ["-v", "search", "--json", "--type=BLOCKER", "--config=--config=x", "--", "--"] ∧
      read s.args = .ok i := by
  intro i s
  have hpaths : i.HasPaths := ⟨by decide, by decide⟩
  have htext : ∀ kind ∈ i.command.kind?, "BLOCKER".toLower = kind.name := by
    rintro kind hkind
    obtain rfl := Option.some.inj hkind
    exact String.toList_inj.mp (String.toList_map.trans (by decide))
  have hspells : s.Spells i :=
    ⟨by decide, by decide, ⟨"BLOCKER", htext, by decide⟩, by decide⟩
  exact ⟨hpaths, hspells, by decide, (spellings_are_read_back i hpaths).2 s hspells⟩

end Findings.CommandLine
