/-! # Command line arguments

    A grammar lists options and the names of the arguments that stand on their own.

    * **Classification** comes first and looks at each argument by itself: it is an option if it starts with a
      hyphen, unless it is a hyphen alone, looks like a negative number or holds a space. Two hyphens end the
      options.
    * **Options** may be shortened as long as only one fits. A value follows an option, or stands after an equals
      sign; short options may be run together, and the last of them may have its value right behind it. An equals
      sign behind the first of them makes no difference.
    * **Values** follow each other in the order in which they are asked for. What is left over is kept as such.
-/

namespace GraphLift

namespace CommandLine

/-- What an option does. -/
inductive Effect where
  /-- Shows help and ends everything. -/
  | help
  /-- Turns something on. -/
  | flag (name : String)
  /-- Takes a value, one of the choices if there are any. -/
  | value (name : String) (choices : List String)
  deriving DecidableEq, Repr

/-- The options and the single arguments of a command. -/
structure Grammar where
  /-- All spellings of the options, each with its effect. -/
  options : List (String × Effect)
  /-- The arguments that stand on their own, in order. -/
  positionals : List String := []
  deriving Repr

/-- Why reading the arguments ends early. -/
inductive Stop where
  | help
  | usage
  deriving DecidableEq, Repr

/-- An option as found among the arguments: its spelling, its effect, and what is written together with it, right
    behind it or after an equals sign. -/
structure Found where
  spelling : String
  effect : Effect
  attached : Option String
  deriving Repr

/-- An argument by itself. -/
inductive Token where
  | word (s : String)
  /-- The two hyphens that end the options. -/
  | separator
  | option (found : Found)
  /-- An option that the grammar does not have. -/
  | unknown (s : String)
  deriving Repr

/-! ## Classification -/

/-- The effect of a spelling. -/
def Grammar.effect? (g : Grammar) (spelling : String) : Option Effect :=
  (g.options.find? (·.1 == spelling)).map (·.2)

/-- Splits at the first equals sign. -/
def splitEquals? (s : String) : Option (String × String) :=
  match s.toList.dropWhile (· != '=') with
  | '=' :: rest => some (String.ofList (s.toList.takeWhile (· != '=')), String.ofList rest)
  | _ => none

/-- The options that an argument may mean when it is no spelling itself: those it shortens, or the short option
    that it starts with. -/
def Grammar.matches (g : Grammar) (s : String) : List Found :=
  match s.toList with
  | '-' :: '-' :: _ =>
    let (stem, attached) : String × Option String := match splitEquals? s with
      | some (a, b) => (a, some b)
      | none => (s, none)
    (g.options.filter fun o => stem.toList.isPrefixOf o.1.toList).map fun o => ⟨o.1, o.2, attached⟩
  | '-' :: c :: rest =>
    g.options.filterMap fun o =>
      if o.1.toList = ['-', c] then some ⟨o.1, o.2, some (String.ofList rest)⟩
      else if s.toList.isPrefixOf o.1.toList then some ⟨o.1, o.2, none⟩
      else none
  | _ => []

/-- A hyphen and a number in plain digits, with or without a point. -/
def looksNegative (s : List Char) : Bool :=
  match s with
  | '-' :: rest =>
    let whole := rest.takeWhile Char.isDigit
    match rest.dropWhile Char.isDigit with
    | [] => !whole.isEmpty
    | '.' :: places => !places.isEmpty && places.all Char.isDigit
    | _ => false
  | _ => false

/-- What an argument is; none if several options fit. -/
def Grammar.classify (g : Grammar) (s : String) : Option Token :=
  match s.toList with
  | '-' :: _ :: _ =>
    match g.effect? s with
    | some e => some (.option ⟨s, e, none⟩)
    | none =>
      match (splitEquals? s).bind fun p => (g.effect? p.1).map fun e => (⟨p.1, e, some p.2⟩ : Found) with
      | some f => some (.option f)
      | none =>
        match g.matches s with
        | [f] => some (.option f)
        | _ :: _ :: _ => none
        | [] => some (if looksNegative s.toList || s.toList.contains ' ' then .word s else .unknown s)
  | _ => some (.word s)

/-- What all arguments are; after two hyphens they are words. -/
def Grammar.classifyAll (g : Grammar) : List String → Option (List Token)
  | [] => some []
  | s :: rest =>
    if s = "--" then some (.separator :: rest.map .word)
    else do return (← g.classify s) :: (← g.classifyAll rest)

/-! ## Reading -/

/-- What has been read: flags, values, and whether arguments were left over. -/
structure Parsed where
  flags : List String := []
  values : List (String × String) := []
  leftover : Bool := false
  deriving Repr

/-- The last value under a name. -/
def Parsed.value? (p : Parsed) (name : String) : Option String :=
  (p.values.reverse.find? (·.1 == name)).map (·.2)

/-- Lets an option take effect. -/
def Parsed.apply (p : Parsed) (e : Effect) (value : Option String) : Except Stop Parsed :=
  match e with
  | .help => .error .help
  | .flag name => .ok { p with flags := p.flags ++ [name] }
  | .value name choices =>
    match value with
    | none => .error .usage
    | some v =>
      if choices.isEmpty || choices.contains v then .ok { p with values := p.values ++ [(name, v)] }
      else .error .usage

/-- Lets options take effect one after the other. -/
def Parsed.applyAll (p : Parsed) (es : List (Effect × Option String)) : Except Stop Parsed :=
  es.foldlM (fun p e => p.apply e.1 e.2) p

/-- What an option with something written together with it stands for: effects, and perhaps an option that still
    wants a value. -/
structure Unfolded where
  effects : List (Effect × Option String) := []
  pending : Option Effect := none

/-- Puts an effect in front. -/
def Unfolded.after (u : Unfolded) (e : Effect) : Unfolded :=
  { u with effects := (e, none) :: u.effects }

/-- Unfolds a short option and what is written together with it: a value, or further short options, all of which
    the grammar must have. -/
def Grammar.unfoldShort (g : Grammar) (effect : Effect) : List Char → Option Unfolded
  | [] =>
    match effect with
    | .value .. => some { pending := some effect }
    | _ => some { effects := [(effect, none)] }
  | c :: rest =>
    match effect with
    | .value .. => some { effects := [(effect, some (String.ofList (c :: rest)))] }
    | _ => (g.effect? (String.ofList ['-', c])).bind fun next => (g.unfoldShort next rest).map (·.after effect)

/-- The option is a long one. -/
def Found.isLong (f : Found) : Bool :=
  ['-', '-'].isPrefixOf f.spelling.toList

/-- Unfolds an option. What is written together with a long option, and nothing after an equals sign, can only be
    a value. -/
def Grammar.unfold (g : Grammar) (f : Found) : Option Unfolded :=
  match f.attached, f.effect with
  | none, .value .. => some { pending := some f.effect }
  | none, _ => some { effects := [(f.effect, none)] }
  | some s, .value .. => some { effects := [(f.effect, some s)] }
  | some s, _ => if f.isLong || s = "" then none else g.unfoldShort f.effect s.toList

/-- The first word behind at most one separator, and what follows it. -/
def firstWord? : List Token → Option (String × List Token)
  | .word s :: rest => some (s, rest)
  | .separator :: .word s :: rest => some (s, rest)
  | _ => none

/-- The tokens without a separator at the front. -/
def dropSeparator : List Token → List Token
  | .separator :: rest => rest
  | ts => ts

/-- Takes words for as many of the arguments that stand on their own as there are. The result has the
    arguments not yet met. -/
def takeWords (p : Parsed) (wanted : List String) (ts : List Token) : Parsed × List String × List Token :=
  match wanted with
  | [] => (p, [], ts)
  | name :: more =>
    match firstWord? ts with
    | none => (p, wanted, ts)
    | some (s, rest) => takeWords { p with values := p.values ++ [(name, s)] } more (dropSeparator rest)

/-- An option. -/
def Token.isOption : Token → Bool
  | .option _ => true
  | .unknown _ => true
  | _ => false

/-- The reading of a grammar's arguments; `room` is for as many steps as there are arguments. -/
def Grammar.read (g : Grammar) (wanted : List String) (p : Parsed) :
    (room : Nat) → List Token → Except Stop (Parsed × List String)
  | 0, _ => .ok (p, wanted)
  | room + 1, ts =>
    match ts with
    | [] => .ok (p, wanted)
    | .unknown _ :: rest => g.read wanted { p with leftover := true } room rest
    | .option f :: rest =>
      match g.unfold f with
      | none => .error .usage
      | some u =>
        match u.pending, rest with
        | none, _ => do g.read wanted (← p.applyAll u.effects) room rest
        | some e, .word v :: after => do g.read wanted (← p.applyAll (u.effects ++ [(e, some v)])) room after
        | some _, _ => .error .usage
    | _ =>
      let (p', wanted', rest) := takeWords p wanted ts
      if wanted'.length < wanted.length then g.read wanted' p' room rest
      else g.read wanted { p with leftover := true } room (ts.dropWhile (!·.isOption))

/-- Reads all arguments. -/
def Grammar.parse (g : Grammar) (arguments : List String) : Except Stop Parsed :=
  match g.classifyAll arguments with
  | none => .error .usage
  | some ts => do
    let (p, wanted) ← g.read g.positionals {} (ts.length + 1) ts
    if wanted.isEmpty then return p else throw .usage

/-- Reads options up to a command word. The result has that word and the arguments after it, each with what it
    is. -/
def Grammar.readCommand (g : Grammar) (p : Parsed) :
    List (Token × String) → Except Stop (Parsed × String × List String)
  | [] => .error .usage
  | (.separator, _) :: _ => .error .usage
  | (.word s, _) :: rest => .ok (p, s, rest.map (·.2))
  | (.unknown _, _) :: rest => g.readCommand { p with leftover := true } rest
  | (.option f, _) :: rest =>
    match g.unfold f with
    | none => .error .usage
    | some u =>
      if u.pending.isSome then .error .usage
      else do g.readCommand (← p.applyAll u.effects) rest

/-- Reads arguments of which a command word takes all that follow it. -/
def Grammar.parseCommand (g : Grammar) (arguments : List String) : Except Stop (Parsed × String × List String) :=
  match g.classifyAll arguments with
  | none => .error .usage
  | some ts => g.readCommand {} (ts.zip arguments)

end CommandLine

end GraphLift
