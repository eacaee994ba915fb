import RevocationCheck.CommandLine.Arguments
import RevocationCheck.Proofs.Elements

/-!
# Command lines by their pieces

A command line is put together from pieces, each of which is one or two arguments: the bundle, the
flag, and the number with its option, in any order.  A bundle whose name could be taken for an
option stands at the end, behind two dashes.  The command lines that make a request are those that
are put together in this way, and the request is what the pieces spell (`ofArguments_eq_ok_iff`).

The reader looks at an argument only when the next one has been recognised, so its state lags behind
what has been read.  The statements are about the settled state, in which nothing is pending.  What
one argument does to it is said once (`State.Takes`); the inductions are along the pieces in
`readArguments_of_spells` and along the arguments in `exists_completes_of_readArguments`.
-/

namespace RevocationCheck.CommandLine

open Der (bind_eq_ok_iff pure_eq_ok_iff throw_ne_ok)

/-- A piece of a command line. -/
inductive Piece
  | bundle (path : String)
  | verified
  /-- The number, which may be attached to its option by an equals sign. -/
  | depth (text : String) (attached : Bool)
  /-- The bundle behind the two dashes that end options. -/
  | operand (path : String)
  /-- The two dashes with nothing behind them. -/
  | dashes
deriving Repr, DecidableEq

/-- The arguments that a piece is written as. -/
def Piece.words : Piece → List String
  | bundle path => [path]
  | verified => ["--verified"]
  | depth text false => ["--depth", text]
  | depth text true => ["--depth=" ++ text]
  | operand path => ["--", path]
  | dashes => ["--"]

/-- Does an argument look like an option?  A dash alone does not. -/
def isOption (argument : String) : Bool :=
  match argument.toList with
  | '-' :: _ :: _ => true
  | _ => false

/-- Pieces spell a bundle, a flag and a number, each of them at most once. -/
inductive Spells : List Piece → Option String → Bool → Option Nat → Prop
  | nil : Spells [] none false none
  | dashes : Spells [.dashes] none false none
  | operand {path : String} (nonempty : path ≠ "") : Spells [.operand path] (some path) false none
  | bundle {pieces : List Piece} {path : String} {verified : Bool} {depth : Option Nat}
      (nonempty : path ≠ "") (noOption : isOption path = false)
      (rest : Spells pieces none verified depth) :
      Spells (.bundle path :: pieces) (some path) verified depth
  | verified {pieces : List Piece} {path : Option String} {depth : Option Nat}
      (rest : Spells pieces path false depth) : Spells (.verified :: pieces) path true depth
  | depth {pieces : List Piece} {path : Option String} {verified : Bool} {text : String} {n : Nat}
      (attached : Bool) (number : Word.Writes text n)
      (rest : Spells pieces path verified none) :
      Spells (.depth text attached :: pieces) path verified (some n)

theorem isOption_eq_false_of_writes {text : String} {n : Nat} (h : Word.Writes text n) :
    isOption text = false := by
  unfold isOption
  split
  case h_1 heq => exact absurd (by rw [heq]; rfl) h.head?_ne_minus
  case h_2 => rfl

/-- Arguments ask for a request: they are the words of pieces that spell it. -/
def Asks (arguments : List String) (request : Request) : Prop :=
  ∃ pieces, Spells pieces (some request.bundle) request.verified request.depth ∧
    pieces.flatMap Piece.words = arguments

/-! ### Settled states -/

namespace State

theorem settle_of_pending_none {s : State} (h : s.pending = .none) : s.settle = .ok s := by
  rw [settle, h]

/-- Settling leaves nothing pending and does not change whether a bundle has come.  It fails while
an option waits for its value. -/
theorem of_settle {s t : State} (h : s.settle = .ok t) :
    t.pending = .none ∧ t.hasBundle = s.hasBundle ∧ s.pending ≠ .depth none := by
  unfold settle at h
  split at h
  case h_1 hpending =>
    cases h
    exact ⟨hpending, rfl, by rw [hpending]; simp⟩
  case h_2 hpending =>
    split at h
    · cases h
    · cases h
      exact ⟨rfl, rfl, by rw [hpending]; simp⟩
  case h_3 => cases h
  case h_4 hpending =>
    unfold setDepth at h
    split at h
    · cases h
    · split at h
      · cases h
      · cases h
        exact ⟨rfl, rfl, by rw [hpending]; simp⟩

theorem setDepth_eq_ok_iff {s t : State} {text : String} :
    s.setDepth text = .ok t ↔ s.depth = none ∧ ∃ n, Word.Writes text n ∧
      t = { s with depth := some n, pending := .none } := by
  simp only [← Word.parse_eq_ok_iff]
  unfold setDepth
  cases s.depth <;> cases Word.parse text <;> simp [eq_comm]

/-! ### Single arguments -/

/-- What an argument does to a settled state. -/
inductive Takes (t : State) : String → State → Prop
  | verified (first : t.verified = false) : Takes t "--verified" { t with verified := true }
  | depth : Takes t "--depth" { t with pending := .depth none }
  | attached {text : String} {n : Nat} (first : t.depth = none) (number : Word.Writes text n) :
      Takes t ("--depth=" ++ text) { t with depth := some n, pending := .none }
  | bundle {path : String} (first : t.hasBundle = false) (noOption : isOption path = false) :
      Takes t path { t with hasBundle := true, pending := .bundle path }

theorem takeStop_ne_ok (s : State) (stop : Stop) (s' : State) : s.takeStop stop ≠ .ok s' := by
  intro h
  obtain ⟨t, -, hthrow⟩ := bind_eq_ok_iff.mp h
  exact throw_ne_ok hthrow

theorem takePositional_eq_ok_iff {s s' : State} {path : String} :
    s.takePositional path = .ok s' ↔ s.hasBundle = false ∧ ∃ t, s.settle = .ok t ∧
      s' = { t with hasBundle := true, pending := .bundle path } := by
  unfold takePositional
  cases s.hasBundle with
  | true => simp
  | false =>
      rw [if_neg Bool.false_ne_true, bind_eq_ok_iff]
      simp [pure_eq_ok_iff]

theorem takeVerified_eq_ok_iff {s s' : State} :
    s.takeVerified = .ok s' ↔ ∃ t, s.settle = .ok t ∧ t.verified = false ∧
      s' = { t with verified := true } := by
  unfold takeVerified
  rw [bind_eq_ok_iff]
  refine exists_congr fun t => and_congr_right fun _ => ?_
  cases t.verified with
  | true => exact iff_of_false throw_ne_ok nofun
  | false => simp [pure_eq_ok_iff]

/-- A long option with what is behind its equals sign. -/
theorem takeLong_eq_ok {s s' : State} {name : String} {attached : Option String}
    (h : s.takeLong name attached = .ok s') :
    ∃ t, s.settle = .ok t ∧ Takes t ("--" ++ name ++ (attached.elim "" ("=" ++ ·))) s' := by
  unfold takeLong at h
  split at h
  case h_1 text =>
    obtain ⟨t, hsettle, hset⟩ := bind_eq_ok_iff.mp h
    obtain ⟨hfirst, n, hnumber, rfl⟩ := setDepth_eq_ok_iff.mp hset
    refine ⟨t, hsettle, ?_⟩
    have hargument : "--" ++ "depth" ++ ("=" ++ text) = "--depth=" ++ text := by
      rw [← String.append_assoc]
      rfl
    exact hargument ▸ .attached hfirst hnumber
  case h_2 =>
    obtain ⟨t, hsettle, hpure⟩ := bind_eq_ok_iff.mp h
    cases hpure
    exact ⟨t, hsettle, .depth⟩
  case h_3 =>
    obtain ⟨t, hsettle, hfirst, rfl⟩ := takeVerified_eq_ok_iff.mp h
    exact ⟨t, hsettle, .verified hfirst⟩
  case h_4 => exact absurd h (takeStop_ne_ok s _ s')
  case h_5 => exact absurd h (takeStop_ne_ok s _ s')
  case h_6 =>
    split at h
    · split at h <;> cases h
    · cases h

/-- An argument that looks like no option is a value or the bundle. -/
theorem take_of_not_isOption {s : State} {argument : String} (h : isOption argument = false) :
    s.take argument =
      if s.pending = .depth none then .ok { s with pending := .depth (some argument) }
      else s.takePositional argument := by
  unfold take
  split
  case h_1 heq => simp [isOption, heq] at h
  case h_2 heq => simp [isOption, heq] at h
  case h_3 =>
    split
    case h_1 hwaits => rw [if_pos hwaits]
    case h_2 hwaits => rw [if_neg hwaits]

/-- A long option ends at its first equals sign. -/
theorem take_of_dashes {s : State} {argument : String} {c : Char} {rest : List Char}
    (h : argument.toList = '-' :: '-' :: c :: rest) :
    ∃ name attached, s.take argument = s.takeLong name attached ∧
      argument = "--" ++ name ++ attached.elim "" ("=" ++ ·) := by
  unfold take
  rw [h]
  dsimp only
  have hcut := List.takeWhile_append_dropWhile (p := fun x => decide (x ≠ '=')) (l := c :: rest)
  refine ⟨_, _, rfl, String.toList_inj.mp ?_⟩
  rw [h]
  cases hdrop : (c :: rest).dropWhile fun x => decide (x ≠ '=') with
  | nil =>
      rw [hdrop, List.append_nil] at hcut
      simp only [hcut, String.toList_append, String.toList_ofList, Option.elim_none]
      simp
  | cons mark value =>
      have hmark : mark = '=' := by
        have hhead := List.head?_dropWhile_not (fun x => decide (x ≠ '=')) (c :: rest)
        rw [hdrop, List.head?_cons] at hhead
        simpa using hhead
      rw [hdrop, hmark] at hcut
      simp only [Option.elim_some, String.toList_append, String.toList_ofList, List.append_assoc]
      exact congrArg ('-' :: '-' :: ·) hcut.symm

theorem takeShort_ne_ok (s : State) (c : Char) (s' : State) : s.takeShort c ≠ .ok s' := by
  unfold takeShort
  split
  · exact takeStop_ne_ok s _ s'
  · split
    · exact takeStop_ne_ok s _ s'
    · exact nofun

/-- Of the options, only long ones are taken. -/
theorem exists_takes_of_option {s s' : State} {argument : String} (hoption : isOption argument)
    (h : s.take argument = .ok s') : ∃ t, s.settle = .ok t ∧ Takes t argument s' := by
  have htake := h
  unfold take at htake
  split at htake
  case h_1 heq =>
    obtain ⟨name, attached, hlong, rfl⟩ := take_of_dashes (s := s) heq
    exact takeLong_eq_ok (hlong ▸ h)
  case h_2 c _ _ _ => exact absurd htake (takeShort_ne_ok s c s')
  case h_3 hlong hshort =>
    unfold isOption at hoption
    split at hoption
    case h_1 c rest heq => exact absurd heq (hshort c rest)
    case h_2 => cases hoption

/-- What is taken while no option waits for its value. -/
theorem exists_takes {s s' : State} {argument : String} (hwaits : s.pending ≠ .depth none)
    (h : s.take argument = .ok s') : ∃ t, s.settle = .ok t ∧ Takes t argument s' := by
  cases hoption : isOption argument with
  | true => exact exists_takes_of_option hoption h
  | false =>
      rw [take_of_not_isOption hoption, if_neg hwaits] at h
      obtain ⟨hfirst, t, hsettle, rfl⟩ := takePositional_eq_ok_iff.mp h
      exact ⟨t, hsettle, .bundle ((of_settle hsettle).2.1.trans hfirst) hoption⟩

theorem take_of_takes {s t s' : State} {argument : String} (hsettle : s.settle = .ok t)
    (h : Takes t argument s') : s.take argument = .ok s' := by
  cases h with
  | verified first =>
      change s.takeVerified = _
      exact takeVerified_eq_ok_iff.mpr ⟨t, hsettle, first, rfl⟩
  | depth =>
      change (do return { (← s.settle) with pending := .depth none }) = _
      rw [hsettle]
      rfl
  | @attached text n first number =>
      have hlist : ("--depth=" ++ text).toList =
          '-' :: '-' :: 'd' :: 'e' :: 'p' :: 't' :: 'h' :: '=' :: text.toList := by
        rw [String.toList_append]
        rfl
      have htake : s.take ("--depth=" ++ text) = s.takeLong "depth" (some text) := by
        rw [take, hlist]
        simp
      rw [htake]
      change (do (← s.settle).setDepth text) = _
      rw [hsettle]
      exact setDepth_eq_ok_iff.mpr ⟨first, n, number, rfl⟩
  | bundle first noOption =>
      obtain ⟨-, hbundle, hwaits⟩ := of_settle hsettle
      rw [take_of_not_isOption noOption, if_neg hwaits]
      exact takePositional_eq_ok_iff.mpr ⟨hbundle.symm.trans first, t, hsettle, rfl⟩

/-- What an argument does while an option waits: it is the value, unless it is an option itself. -/
theorem take_waiting_eq_ok_iff {t s' : State} {argument : String} :
    { t with pending := .depth none }.take argument = .ok s' ↔
      isOption argument = false ∧ s' = { t with pending := .depth (some argument) } := by
  cases hoption : isOption argument with
  | true =>
      refine iff_of_false (fun h => ?_) (by simp)
      obtain ⟨_, hsettle, -⟩ := exists_takes_of_option hoption h
      cases hsettle
  | false => simp [take_of_not_isOption hoption, eq_comm]

theorem finish_eq_ok_iff {s : State} {request : Request} :
    s.finish = .ok request ↔ ∃ t, s.settle = .ok t ∧ t.bundle = some request.bundle ∧
      request.verified = t.verified ∧ request.depth = t.depth := by
  unfold finish
  rw [bind_eq_ok_iff]
  refine exists_congr fun t => and_congr_right fun _ => ?_
  obtain ⟨path, verified, depth⟩ := request
  cases t.bundle with
  | none => simp [throw_ne_ok]
  | some found =>
      rw [pure_eq_ok_iff]
      simp [eq_comm]

theorem settle_bundle_eq_ok_iff {t u : State} {path : String} :
    { t with hasBundle := true, pending := .bundle path }.settle = .ok u ↔
      path ≠ "" ∧ u = { t with hasBundle := true, bundle := some path, pending := .none } := by
  by_cases hempty : path = "" <;> simp [settle, hempty, eq_comm]

theorem settle_depth_eq_ok_iff {t u : State} {text : String} :
    { t with pending := .depth (some text) }.settle = .ok u ↔ t.depth = none ∧
      ∃ n, Word.Writes text n ∧ u = { t with depth := some n, pending := .none } :=
  setDepth_eq_ok_iff

end State

/-! ### Whole command lines -/

section Reading

open State

variable {s t : State} {request : Request}

theorem readArguments_cons {argument : String} {rest : List String} (hdashes : argument ≠ "--") :
    readArguments s (argument :: rest) = s.take argument >>= (readArguments · rest) := by
  rw [readArguments]
  exact hdashes

theorem ne_dashes {text : String} (h : isOption text = false) : text ≠ "--" := by
  rintro rfl
  cases h

/-- Pieces complete what has been read to a request, and bring nothing that has been read
already. -/
structure Completes (t : State) (pieces : List Piece) (path : Option String) (verified : Bool)
    (depth : Option Nat) (request : Request) : Prop where
  spells : Spells pieces path verified depth
  path_new : path.isSome → t.hasBundle = false
  verified_new : verified → t.verified = false
  depth_new : depth.isSome → t.depth = none
  bundle_eq : path.or t.bundle = some request.bundle
  verified_eq : request.verified = (verified || t.verified)
  depth_eq : request.depth = depth.or t.depth

/-- What has been read and what the pieces that follow spell is put together. -/
theorem readArguments_of_spells {pieces : List Piece} {path : Option String} {verified : Bool}
    {depth : Option Nat} (hsettle : s.settle = .ok t)
    (h : Completes t pieces path verified depth request) :
    readArguments s (pieces.flatMap Piece.words) = .ok request := by
  obtain ⟨spells, path_new, verified_new, depth_new, bundle_eq, verified_eq, depth_eq⟩ := h
  induction spells generalizing s t with
  | nil => exact finish_eq_ok_iff.mpr ⟨t, hsettle, bundle_eq, verified_eq, depth_eq⟩
  | dashes => exact finish_eq_ok_iff.mpr ⟨t, hsettle, bundle_eq, verified_eq, depth_eq⟩
  | @operand path nonempty =>
      have hfirst : s.hasBundle = false := (of_settle hsettle).2.1.symm.trans (path_new rfl)
      change readOperands s [path] = _
      rw [readOperands, takePositional_eq_ok_iff.mpr ⟨hfirst, t, hsettle, rfl⟩]
      exact finish_eq_ok_iff.mpr
        ⟨_, settle_bundle_eq_ok_iff.mpr ⟨nonempty, rfl⟩, bundle_eq, verified_eq, depth_eq⟩
  | @bundle pieces path verified depth nonempty noOption rest ih =>
      change readArguments s (path :: pieces.flatMap Piece.words) = _
      rw [readArguments_cons (ne_dashes noOption),
        take_of_takes hsettle (.bundle (path_new rfl) noOption)]
      exact ih (settle_bundle_eq_ok_iff.mpr ⟨nonempty, rfl⟩) nofun verified_new depth_new bundle_eq
        verified_eq depth_eq
  | @verified pieces path depth rest ih =>
      have hsettled : { t with verified := true }.settle = .ok { t with verified := true } :=
        settle_of_pending_none (of_settle hsettle).1
      change readArguments s ("--verified" :: pieces.flatMap Piece.words) = _
      rw [readArguments_cons (by decide), take_of_takes hsettle (.verified (verified_new rfl))]
      exact ih hsettled path_new nofun depth_new bundle_eq verified_eq depth_eq
  | @depth pieces path verified text n attached number rest ih =>
      have hfirst : t.depth = none := depth_new rfl
      cases attached with
      | true =>
          have hdashes : "--depth=" ++ text ≠ "--" := by
            intro heq
            have hlist := congrArg String.toList heq
            rw [String.toList_append] at hlist
            cases hlist
          change readArguments s (("--depth=" ++ text) :: pieces.flatMap Piece.words) = _
          rw [readArguments_cons hdashes, take_of_takes hsettle (.attached hfirst number)]
          exact ih (settle_of_pending_none rfl) path_new verified_new nofun bundle_eq verified_eq
            depth_eq
      | false =>
          have noOption : isOption text = false := isOption_eq_false_of_writes number
          change readArguments s ("--depth" :: text :: pieces.flatMap Piece.words) = _
          rw [readArguments_cons (by decide), take_of_takes hsettle .depth]
          change readArguments _ (text :: pieces.flatMap Piece.words) = _
          rw [readArguments_cons (ne_dashes noOption),
            take_waiting_eq_ok_iff.mpr ⟨noOption, rfl⟩]
          exact ih (settle_depth_eq_ok_iff.mpr ⟨hfirst, n, number, rfl⟩) path_new verified_new nofun
            bundle_eq verified_eq depth_eq

/-! ### From the arguments to the pieces -/

section Completes

variable {pieces : List Piece} {path : Option String} {verified : Bool} {depth : Option Nat}

theorem Completes.cons_verified (first : t.verified = false)
    (h : Completes { t with verified := true } pieces path verified depth request) :
    Completes t (.verified :: pieces) path true depth request := by
  obtain ⟨spells, path_new, verified_new, depth_new, bundle_eq, verified_eq, depth_eq⟩ := h
  cases verified with
  | true => cases verified_new rfl
  | false =>
      exact ⟨.verified spells, path_new, fun _ => first, depth_new, bundle_eq, verified_eq,
        depth_eq⟩

theorem Completes.cons_bundle {name : String} (first : t.hasBundle = false) (nonempty : name ≠ "")
    (noOption : isOption name = false)
    (h : Completes { t with hasBundle := true, bundle := some name, pending := .none } pieces path
      verified depth request) :
    Completes t (.bundle name :: pieces) (some name) verified depth request := by
  obtain ⟨spells, path_new, verified_new, depth_new, bundle_eq, verified_eq, depth_eq⟩ := h
  cases path with
  | some other => cases path_new rfl
  | none =>
      exact ⟨.bundle nonempty noOption spells, fun _ => first, verified_new, depth_new, bundle_eq,
        verified_eq, depth_eq⟩

theorem Completes.cons_depth {text : String} {n : Nat} (attached : Bool) (first : t.depth = none)
    (number : Word.Writes text n)
    (h : Completes { t with depth := some n, pending := .none } pieces path verified depth
      request) :
    Completes t (.depth text attached :: pieces) path verified (some n) request := by
  obtain ⟨spells, path_new, verified_new, depth_new, bundle_eq, verified_eq, depth_eq⟩ := h
  cases depth with
  | some other => cases depth_new rfl
  | none =>
      exact ⟨.depth attached number spells, path_new, verified_new, fun _ => first, bundle_eq,
        verified_eq, depth_eq⟩

end Completes

theorem parts_of_finish (hsettle : s.settle = .ok t) (h : s.finish = .ok request) :
    t.bundle = some request.bundle ∧ request.verified = t.verified ∧ request.depth = t.depth := by
  obtain ⟨u, hu, hparts⟩ := finish_eq_ok_iff.mp h
  cases hsettle.symm.trans hu
  exact hparts

/-- Behind the two dashes there is the bundle or nothing. -/
theorem exists_completes_of_readOperands {rest : List String} (hsettle : s.settle = .ok t)
    (h : readOperands s rest = .ok request) : ∃ pieces path,
      pieces.flatMap Piece.words = "--" :: rest ∧ Completes t pieces path false none request := by
  cases rest with
  | nil =>
      obtain ⟨hbundle, hverified, hdepth⟩ := parts_of_finish hsettle h
      exact ⟨[.dashes], none, rfl, .dashes, nofun, nofun, nofun, hbundle, hverified, hdepth⟩
  | cons path more =>
      obtain ⟨s', htake, hread⟩ := bind_eq_ok_iff.mp h
      obtain ⟨hfirst, u, hu, rfl⟩ := takePositional_eq_ok_iff.mp htake
      cases hsettle.symm.trans hu
      cases more with
      | nil =>
          obtain ⟨u, hu, hbundle, hverified, hdepth⟩ := finish_eq_ok_iff.mp hread
          obtain ⟨nonempty, rfl⟩ := settle_bundle_eq_ok_iff.mp hu
          have hnew : t.hasBundle = false := (of_settle hsettle).2.1.trans hfirst
          exact ⟨[.operand path], some path, rfl, .operand nonempty, fun _ => hnew, nofun, nofun,
            hbundle, hverified, hdepth⟩
      | cons other more =>
          obtain ⟨_, hother, -⟩ := bind_eq_ok_iff.mp hread
          cases (takePositional_eq_ok_iff.mp hother).1

/-- Behind the options, nothing is pending that cannot be settled. -/
theorem exists_settle_of_readOperands {rest : List String}
    (h : readOperands s rest = .ok request) : ∃ t, s.settle = .ok t := by
  cases rest with
  | nil =>
      obtain ⟨t, hsettle, -⟩ := finish_eq_ok_iff.mp h
      exact ⟨t, hsettle⟩
  | cons path more =>
      obtain ⟨_, htake, -⟩ := bind_eq_ok_iff.mp h
      obtain ⟨-, t, hsettle, -⟩ := takePositional_eq_ok_iff.mp htake
      exact ⟨t, hsettle⟩

/-- What is read while nothing waits for a value can be settled. -/
theorem exists_settle_of_readArguments {arguments : List String}
    (h : readArguments s arguments = .ok request) (hwaits : s.pending ≠ .depth none) :
    ∃ t, s.settle = .ok t := by
  cases arguments with
  | nil =>
      change readOperands s [] = _ at h
      exact exists_settle_of_readOperands h
  | cons argument rest =>
      by_cases hdashes : argument = "--"
      · subst hdashes
        exact exists_settle_of_readOperands h
      · rw [readArguments_cons hdashes, bind_eq_ok_iff] at h
        obtain ⟨_, htake, -⟩ := h
        obtain ⟨t, hsettle, -⟩ := exists_takes hwaits htake
        exact ⟨t, hsettle⟩

/-- While an option waits, its value comes next. -/
theorem exists_value_of_readArguments {rest : List String}
    (h : readArguments { t with pending := .depth none } rest = .ok request) :
    ∃ text more, rest = text :: more ∧
      readArguments { t with pending := .depth (some text) } more = .ok request := by
  -- Neither the end nor two dashes leave the option without its value.
  have hunsettled : ¬ ∃ u, { t with pending := .depth none }.settle = .ok u := nofun
  cases rest with
  | nil =>
      change readOperands _ [] = _ at h
      exact absurd (exists_settle_of_readOperands h) hunsettled
  | cons text more =>
      by_cases hdashes : text = "--"
      · subst hdashes
        exact absurd (exists_settle_of_readOperands h) hunsettled
      · rw [readArguments_cons hdashes, bind_eq_ok_iff] at h
        obtain ⟨_, htake, hread⟩ := h
        obtain ⟨-, rfl⟩ := take_waiting_eq_ok_iff.mp htake
        exact ⟨text, more, rfl, hread⟩

/-- Arguments that are read to a request are the words of pieces that complete it. -/
theorem exists_completes_of_readArguments (arguments : List String) {s t : State}
    (hsettle : s.settle = .ok t) (h : readArguments s arguments = .ok request) :
    ∃ pieces path verified depth, pieces.flatMap Piece.words = arguments ∧
      Completes t pieces path verified depth request := by
  match arguments with
  | [] =>
    obtain ⟨hbundle, hverified, hdepth⟩ := parts_of_finish hsettle h
    exact ⟨[], none, false, none, rfl, .nil, nofun, nofun, nofun, hbundle, hverified, hdepth⟩
  | argument :: rest =>
    by_cases hdashes : argument = "--"
    · subst hdashes
      obtain ⟨pieces, path, hwords, hcompletes⟩ := exists_completes_of_readOperands hsettle h
      exact ⟨pieces, path, false, none, hwords, hcompletes⟩
    · rw [readArguments_cons hdashes, bind_eq_ok_iff] at h
      obtain ⟨s', htake, hread⟩ := h
      obtain ⟨u, hu, htakes⟩ := exists_takes (of_settle hsettle).2.2 htake
      cases hsettle.symm.trans hu
      cases htakes with
      | verified first =>
          have hnext := settle_of_pending_none (s := { t with verified := true })
            (of_settle hsettle).1
          obtain ⟨pieces, path, verified, depth, rfl, hcompletes⟩ :=
            exists_completes_of_readArguments rest hnext hread
          exact ⟨_, _, _, _, rfl, hcompletes.cons_verified first⟩
      | depth =>
          obtain ⟨text, more, rfl, hvalue⟩ := exists_value_of_readArguments hread
          obtain ⟨u, hu⟩ := exists_settle_of_readArguments hvalue nofun
          obtain ⟨first, n, number, rfl⟩ := settle_depth_eq_ok_iff.mp hu
          obtain ⟨pieces, path, verified, depth, rfl, hcompletes⟩ :=
            exists_completes_of_readArguments more hu hvalue
          exact ⟨_, _, _, _, rfl, hcompletes.cons_depth false first number⟩
      | @attached text n first number =>
          obtain ⟨pieces, path, verified, depth, rfl, hcompletes⟩ :=
            exists_completes_of_readArguments rest (settle_of_pending_none rfl) hread
          exact ⟨_, _, _, _, rfl, hcompletes.cons_depth true first number⟩
      | bundle first noOption =>
          obtain ⟨u, hu⟩ := exists_settle_of_readArguments hread nofun
          obtain ⟨nonempty, rfl⟩ := settle_bundle_eq_ok_iff.mp hu
          obtain ⟨pieces, path, verified, depth, rfl, hcompletes⟩ :=
            exists_completes_of_readArguments rest hu hread
          exact ⟨_, _, _, _, rfl, hcompletes.cons_bundle first nonempty noOption⟩
termination_by arguments.length

end Reading

/-- The command lines that make a request are those that ask for it. -/
theorem ofArguments_eq_ok_iff {arguments : List String} {request : Request} :
    Request.ofArguments arguments = .ok request ↔ Asks arguments request := by
  constructor
  · intro h
    obtain ⟨pieces, path, verified, depth, hwords, spells, -, -, -, hbundle, hverified, hdepth⟩ :=
      exists_completes_of_readArguments arguments rfl h
    simp only [State.start, Option.or_none, Bool.or_false] at hbundle hverified hdepth
    exact ⟨pieces, by rw [← hbundle, hverified, hdepth]; exact spells, hwords⟩
  · rintro ⟨pieces, spells, rfl⟩
    exact readArguments_of_spells (s := .start) rfl ⟨spells, fun _ => rfl, fun _ => rfl,
      fun _ => rfl, Option.or_none, (Bool.or_false _).symm, Option.or_none.symm⟩

end RevocationCheck.CommandLine
