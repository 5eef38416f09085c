import MiniOgas.CommandRetention

namespace MiniOgas

open Bounded Serial

variable {builtins : Builtins} {verifier : CommandVerifier} {commands commands' : List NodeCommand}
  {now : Timestamp} {command once : NodeCommand} {request first second : CommandRequest}
  {call : CommandCall} {reply : CommandReply}

def CommandRequest.idempotencyKey (request : CommandRequest) : Json :=
  request.parameters.get "idempotency_key"

def CommandRequest.keyText (builtins : Builtins) (request : CommandRequest) : String :=
  builtins.text (request.idempotencyKey.or (.str ""))

structure CommandRequest.Repeats (second first : CommandRequest) : Prop where
  node : second.nodeCode = first.nodeCode
  kind : second.commandType = first.commandType
  key : second.idempotencyKey = first.idempotencyKey

structure CommandRequest.Matches (builtins : Builtins) (request : CommandRequest)
    (command : NodeCommand) : Prop where
  node : command.nodeCode = request.nodeCode
  kind : command.commandType = request.commandType
  key : (command.parameters.get "idempotency_key").isText (request.keyText builtins) = true

/-- A call answers with a command that was given out once, creates none and supersedes none. -/
def AnswersAgain (builtins : Builtins) (verifier : CommandVerifier) (commands : List NodeCommand)
    (call : CommandCall) (once : NodeCommand) : Prop :=
  ∃ command, command.identity = once.identity ∧
    (commandAuthority builtins verifier).attempt call commands =
      .ok (.created command [] false, commands)

theorem matches_of_identity (same : command.identity = once.identity)
    (found : request.Matches builtins once) : request.Matches builtins command := by
  have node := congrArg CommandIdentity.nodeCode same
  have kind := congrArg CommandIdentity.commandType same
  have parameters := congrArg CommandIdentity.parameters same
  simp only [NodeCommand.identity] at node kind parameters
  exact ⟨node.trans found.node, kind.trans found.kind, parameters ▸ found.key⟩

theorem matches_of_repeats (repeats : second.Repeats first) :
    second.Matches builtins command ↔ first.Matches builtins command := by
  have text : second.keyText builtins = first.keyText builtins := by
    rw [CommandRequest.keyText, CommandRequest.keyText, repeats.key]
  constructor
  · intro found
    exact ⟨found.node.trans repeats.node, found.kind.trans repeats.kind, text ▸ found.key⟩
  · intro found
    exact ⟨found.node.trans repeats.node.symm, found.kind.trans repeats.kind.symm,
      text ▸ found.key⟩

theorem repeatedCommand_eq_find? : repeatedCommand builtins commands request =
    if request.keyText builtins = "" then none
    else commands.find? fun command =>
      command.nodeCode = request.nodeCode && command.commandType = request.commandType &&
        (command.parameters.get "idempotency_key").isText (request.keyText builtins) := rfl

theorem matches_iff : (decide (command.nodeCode = request.nodeCode) &&
      decide (command.commandType = request.commandType) &&
      (command.parameters.get "idempotency_key").isText (request.keyText builtins)) = true ↔
    request.Matches builtins command := by
  simp only [Bool.and_eq_true, decide_eq_true_eq]
  constructor
  · intro ⟨⟨node, kind⟩, key⟩
    exact ⟨node, kind, key⟩
  · intro found
    exact ⟨⟨found.node, found.kind⟩, found.key⟩

theorem repeatedCommand_least (sound : CommandsSound commands)
    (repeated : repeatedCommand builtins commands request = some command) :
    command ∈ commands ∧ request.Matches builtins command ∧
      ∀ other ∈ commands, request.Matches builtins other → command.id ≤ other.id := by
  rw [repeatedCommand_eq_find?] at repeated
  split at repeated
  next => cases repeated
  next =>
    obtain ⟨found, before, after, split, unmatched⟩ := List.find?_eq_some_iff_append.mp repeated
    refine ⟨List.mem_of_find?_eq_some repeated, matches_iff.mp found, fun other member same => ?_⟩
    have increasing := sound.increasing
    rw [split, List.map_append, List.map_cons] at increasing
    rw [split] at member
    rcases List.mem_append.mp member with earlier | later
    · have := unmatched other earlier
      rw [matches_iff.mpr same] at this
      cases this
    · rcases List.mem_cons.mp later with rfl | later
      · exact le_rfl
      · have above := (List.pairwise_cons.mp (List.pairwise_append.mp increasing).2.1).1
        exact (above other.id (List.mem_map_of_mem later)).le

theorem keyText_of_repeated
    (repeated : repeatedCommand builtins commands request = some command) :
    request.keyText builtins ≠ "" := by
  intro blank
  rw [repeatedCommand_eq_find?, if_pos blank] at repeated
  cases repeated

theorem unmatched_of_fresh (keyed : request.keyText builtins ≠ "")
    (fresh : repeatedCommand builtins commands request = none) :
    ∀ other ∈ commands, ¬ request.Matches builtins other := by
  rw [repeatedCommand_eq_find?, if_neg keyed, List.find?_eq_none] at fresh
  intro other member found
  exact fresh other member (matches_iff.mpr found)

theorem repeatedCommand_of_least (sound : CommandsSound commands)
    (keyed : request.keyText builtins ≠ "") (member : command ∈ commands)
    (found : request.Matches builtins command)
    (least : ∀ other ∈ commands, request.Matches builtins other → command.id ≤ other.id) :
    repeatedCommand builtins commands request = some command := by
  cases repeated : repeatedCommand builtins commands request with
  | none => exact absurd found (unmatched_of_fresh keyed repeated command member)
  | some other =>
    obtain ⟨listed, match', lowest⟩ := repeatedCommand_least sound repeated
    have same : other.id = command.id :=
      le_antisymm (lowest command member found) (least other listed match')
    rw [eq_of_increasing sound.increasing listed member same]

theorem Fields.get_setDefault_of_present (fields : Fields) {key : String} {value : Json}
    (present : fields.get key ≠ .null) :
    (fields.setDefault key value).get key = fields.get key := by
  unfold Fields.setDefault
  split
  next => rfl
  next absent =>
    refine absurd ?_ present
    have none : fields.find? (fun field => field.1 = key) = none := by
      rw [List.find?_eq_none]
      exact fun field there own => absent (List.any_eq_true.mpr ⟨field, there, own⟩)
    unfold Fields.get
    rw [none]
    rfl

theorem truthy_of_keyed (keyed : request.keyText builtins ≠ "") :
    request.idempotencyKey.truthy = true := by
  by_contra falsy
  rw [CommandRequest.keyText, Json.or, if_neg falsy] at keyed
  exact keyed rfl

theorem matches_created_iff {id : Nat} {ttlSeconds : Int}
    (keyed : request.keyText builtins ≠ "") :
    request.Matches builtins (request.command now id ttlSeconds) ↔
      ∃ text, request.idempotencyKey = .str text := by
  have truthy := truthy_of_keyed keyed
  have present : request.idempotencyKey ≠ .null := by
    intro null
    rw [null] at truthy
    cases truthy
  have stored : (request.command now id ttlSeconds).parameters.get "idempotency_key" =
      request.idempotencyKey := Fields.get_setDefault_of_present _ present
  have text : request.keyText builtins = builtins.text request.idempotencyKey := by
    rw [CommandRequest.keyText, Json.or, if_pos truthy]
  constructor
  · intro found
    have key := found.key
    rw [stored] at key
    cases own : request.idempotencyKey with
    | str given => exact ⟨given, rfl⟩
    | null | bool | int | float | time | arr | obj =>
      rw [own] at key
      cases key
  · intro ⟨given, isText⟩
    refine ⟨rfl, rfl, ?_⟩
    rw [stored, text, isText]
    exact decide_eq_true rfl

/-- No listed match of the request is older than the command. -/
def Oldest (builtins : Builtins) (request : CommandRequest) (once : NodeCommand)
    (commands : List NodeCommand) : Prop :=
  ∀ other ∈ commands, request.Matches builtins other → once.id ≤ other.id

theorem oldest_step (effect : CommandEffect builtins call reply commands commands')
    (recalls : Recalls once commands) (oldest : Oldest builtins request once commands) :
    Oldest builtins request once commands' := by
  refine effect.forall (fun old listed updated move found => ?_) fun new fresh found => ?_
  · rw [move.id]
    exact oldest old listed (matches_of_identity move.same.symm found)
  · have above := recalls.1
    omega

structure Remembered (builtins : Builtins) (request : CommandRequest) (once : NodeCommand)
    (commands : List NodeCommand) : Prop where
  sound : CommandsSound commands
  recalls : Recalls once commands
  oldest : Oldest builtins request once commands

theorem remembered_step (effect : CommandEffect builtins call reply commands commands')
    (remembered : Remembered builtins request once commands) :
    Remembered builtins request once commands' :=
  ⟨commandsSound_step effect remembered.sound, recalls_step effect remembered.recalls,
    oldest_step effect remembered.recalls remembered.oldest⟩

theorem remembered_created {transitions : List CommandTransition} {created : Bool}
    (sound : CommandsSound commands) (keyed : request.keyText builtins ≠ "")
    (done : createCommand builtins commands now request =
      .ok ((once, transitions, created), commands')) :
    Remembered builtins request once commands' ∧
      (request.Matches builtins once ↔ (∃ text, request.idempotencyKey = .str text) ∨
        (repeatedCommand builtins commands request).isSome = true) := by
  have effect : CommandEffect builtins ⟨now, .create request⟩
      (.created once transitions created) commands commands' :=
    @createCommand_effect builtins commands commands' once request
      (.created once transitions created) ⟨now, .create request⟩ transitions created done rfl rfl
  have sound' := commandsSound_step effect sound
  rcases createCommand_cases done with ⟨repeated, same⟩ | ⟨fresh, ttlSeconds, new, kept⟩
  · obtain ⟨listed, found, least⟩ := repeatedCommand_least sound repeated
    rw [same] at sound' ⊢
    refine ⟨⟨sound', recalls_of_mem sound listed, least⟩, ?_⟩
    rw [repeated]
    exact ⟨fun _ => .inr rfl, fun _ => found⟩
  · have new : once = request.command now (nextCommandId commands) ttlSeconds := new
    have listed : once ∈ commands' := by
      rw [kept]
      exact mem_keepLast_append _ _ _
    refine ⟨⟨sound', recalls_of_mem sound' listed, fun other member found => ?_⟩, ?_⟩
    · rw [kept] at member
      rcases of_mem_keepLast_append member with old | same
      · obtain ⟨before, there, move⟩ := exists_left_of_forall₂
          (replaces_moves (.claim "" "") commands now request) old
        refine absurd (matches_of_identity move.same.symm found) ?_
        exact unmatched_of_fresh keyed fresh before there
      · rw [same]
    · rw [fresh, new, matches_created_iff keyed]
      simp

theorem attempt_create_iff {later : Timestamp} : (commandAuthority builtins verifier).attempt
      ⟨later, .create request⟩ commands = .ok (.created command [] false, commands) ↔
    repeatedCommand builtins commands request = some command := by
  change (createCommand builtins commands later request >>= fun done =>
    Except.ok (CommandReply.created done.1.1 done.1.2.1 done.1.2.2, done.2)) = _ ↔ _
  constructor
  · intro answered
    obtain ⟨⟨⟨other, transitions, created⟩, left⟩, done, answered⟩ := of_bind answered
    cases answered
    unfold createCommand at done
    split at done
    next repeated =>
      cases done
      exact repeated
    next =>
      obtain ⟨ttlSeconds, -, done⟩ := of_bind done
      have flag := congrArg (fun result => result.1.2.2) (Except.ok.inj done)
      cases flag
  · intro repeated
    refine bind_eq_ok.mpr ⟨((command, [], false), commands), ?_, rfl⟩
    unfold createCommand
    rw [repeated]

theorem answersAgain_iff {later : Timestamp} (remembered : Remembered builtins first once commands)
    (repeats : second.Repeats first) (keyed : first.keyText builtins ≠ "") :
    AnswersAgain builtins verifier commands ⟨later, .create second⟩ once ↔
      first.Matches builtins once ∧ ∃ kept ∈ commands, kept.id = once.id := by
  have text : second.keyText builtins = first.keyText builtins := by
    rw [CommandRequest.keyText, CommandRequest.keyText, repeats.key]
  constructor
  · intro ⟨command, same, answered⟩
    obtain ⟨listed, found, -⟩ :=
      repeatedCommand_least remembered.sound (attempt_create_iff.mp answered)
    refine ⟨matches_of_identity same.symm ((matches_of_repeats repeats).mp found), ?_⟩
    exact ⟨command, listed, congrArg CommandIdentity.id same⟩
  · intro ⟨found, kept, listed, sameId⟩
    have same := remembered.recalls.2 kept listed sameId
    refine ⟨kept, same, attempt_create_iff.mpr ?_⟩
    refine repeatedCommand_of_least remembered.sound (text ▸ keyed) listed
      ((matches_of_repeats repeats).mpr (matches_of_identity same found)) ?_
    intro other member matched
    rw [sameId]
    exact remembered.oldest other member ((matches_of_repeats repeats).mp matched)

theorem keyText_of_text (given : request.idempotencyKey ≠ .str "") {text : String}
    (isText : request.idempotencyKey = .str text) : request.keyText builtins ≠ "" := by
  have nonempty : text ≠ "" := by
    intro blank
    rw [isText, blank] at given
    exact given rfl
  rw [CommandRequest.keyText, isText, Json.or, Json.truthy, if_pos (by simpa using nonempty)]
  exact nonempty

/-- In every run, a creation that repeats the node, the type and the key of an earlier one
answers with the earlier one's command exactly when the key is a text, or the earlier creation
found a command already, and that command is still listed. -/
theorem creation_repeated_iff {transitions : List CommandTransition} {created : Bool}
    {before : List CommandCall} (repeats : second.Repeats first)
    (given : first.idempotencyKey ≠ .str "")
    (done : (commandAuthority builtins verifier).attempt ⟨now, .create first⟩
      ((commandAuthority builtins verifier).run [] before) =
        .ok (.created once transitions created, commands'))
    (between : List CommandCall) (later : Timestamp) :
    AnswersAgain builtins verifier ((commandAuthority builtins verifier).run []
        (before ++ ⟨now, .create first⟩ :: between)) ⟨later, .create second⟩ once ↔
      ((∃ text, first.idempotencyKey = .str text) ∨ (repeatedCommand builtins
        ((commandAuthority builtins verifier).run [] before) first).isSome = true) ∧
      ∃ kept ∈ (commandAuthority builtins verifier).run []
        (before ++ ⟨now, .create first⟩ :: between), kept.id = once.id := by
  have sound := commandsSound_run builtins verifier before
  have served := Authority.serve_of_ok done
  rw [Authority.run_append, Authority.run_cons, served]
  obtain ⟨⟨⟨command, moved, flag⟩, left⟩, made, answered⟩ := of_bind done
  cases answered
  by_cases keyed : first.keyText builtins = ""
  · constructor
    · intro ⟨command, _, answered⟩
      refine absurd ?_ (keyText_of_repeated (attempt_create_iff.mp answered))
      rw [CommandRequest.keyText, repeats.key]
      exact keyed
    · intro ⟨found, _⟩
      rcases found with ⟨text, isText⟩ | repeated
      · exact absurd keyed (keyText_of_text given isText)
      · obtain ⟨command, repeated⟩ := Option.isSome_iff_exists.mp repeated
        exact absurd keyed (keyText_of_repeated repeated)
  · obtain ⟨remembered, found⟩ := remembered_created sound keyed made
    rw [← found]
    refine answersAgain_iff ?_ repeats keyed
    refine Authority.invariant (I := Remembered builtins first _) ?_ between remembered
    intro commands call reply commands' remembered h
    exact remembered_step (command_effect h) remembered

def keyedRateRequest (key : Json) : CommandRequest :=
  { sampleRateRequest "milling-workshop-01" with
    parameters := [("target_rate", .int 2), ("idempotency_key", key)] }

theorem creation_repeated_text :
    AnswersAgain sampleBuiltins .standard ((commandAuthority sampleBuiltins .standard).run []
        ([] ++ ⟨0, .create (keyedRateRequest (.str "shift-1"))⟩ :: sampleRates 2))
      ⟨5, .create (keyedRateRequest (.str "shift-1"))⟩
      ((keyedRateRequest (.str "shift-1")).command 0 1 300) ↔
    ((∃ text, (keyedRateRequest (.str "shift-1")).idempotencyKey = .str text) ∨
      (repeatedCommand sampleBuiltins ((commandAuthority sampleBuiltins .standard).run [] [])
        (keyedRateRequest (.str "shift-1"))).isSome = true) ∧
    ∃ kept ∈ (commandAuthority sampleBuiltins .standard).run []
        ([] ++ ⟨0, .create (keyedRateRequest (.str "shift-1"))⟩ :: sampleRates 2),
      kept.id = ((keyedRateRequest (.str "shift-1")).command 0 1 300).id :=
  creation_repeated_iff ⟨rfl, rfl, rfl⟩
    (by simp [CommandRequest.idempotencyKey, keyedRateRequest, Fields.get]) rfl (sampleRates 2) 5

/-- `str` of the integer key. -/
def numberedBuiltins : Builtins where
  str
    | .int 5 => "5"
    | _ => ""
  int := Json.asInt
  float := Json.asFloat

/-- An integer key is looked up by its text and stored as a number, so it is never found. -/
theorem integer_key_creates_twice : ¬ ∀ (builtins : Builtins) (verifier : CommandVerifier)
    (before between : List CommandCall) (now later : Timestamp) (first second : CommandRequest)
    (once : NodeCommand) (transitions : List CommandTransition) (created : Bool)
    (commands' : List NodeCommand), second.Repeats first → first.keyText builtins ≠ "" →
    (commandAuthority builtins verifier).attempt ⟨now, .create first⟩
      ((commandAuthority builtins verifier).run [] before) =
        .ok (.created once transitions created, commands') →
    AnswersAgain builtins verifier ((commandAuthority builtins verifier).run []
      (before ++ ⟨now, .create first⟩ :: between)) ⟨later, .create second⟩ once := by
  intro claimed
  obtain ⟨command, -, answered⟩ := claimed numberedBuiltins .standard [] [] 0 5
    (keyedRateRequest (.int 5)) (keyedRateRequest (.int 5)) _ _ _ _ ⟨rfl, rfl, rfl⟩ (by decide) rfl
  have repeated := attempt_create_iff.mp answered
  have fresh : (repeatedCommand numberedBuiltins
      ((commandAuthority numberedBuiltins .standard).run []
        ([] ++ [⟨0, .create (keyedRateRequest (.int 5))⟩]))
      (keyedRateRequest (.int 5))).isNone = true := by
    decide +kernel
  rw [repeated] at fresh
  cases fresh

end MiniOgas
