import Lldpdu.Session
import Lldpdu.Proofs.Layer

/-!
# Sessions, command by command

A command needs a frame, an info, both or neither.  If what it needs is not there it is refused and
the session stays as it was; otherwise it changes no more than what it is about.  So a run of
commands leaves alone what none of them is about: an info stays the one of the frame that it was
decoded from, however that frame is edited, until it is decoded again.
-/

namespace Lldpdu.Session

/-- What a command can need, and what it can change apart from the layers. -/
inductive Subject where
  | frame
  | info
  deriving DecidableEq, Repr

/-- Whether there is a frame, or an info. -/
def holds (s : Session) : Subject → Bool
  | .frame => s.frame?.isSome
  | .info => s.info?.isSome

/-- What an answer says is not there. -/
def Reply.refusal? : Reply → Option Subject
  | .noFrame => some .frame
  | .noInfo => some .info
  | _ => none

namespace Command

/-- What a command needs, in the order in which it is asked for. -/
def needs : Command → List Subject
  | .decodeFrame _ | .deliver _ | .load _ => []
  | .showFrame | .pushValue _ | .removeValue _ | .reverseValues | .decodeInfo => [.frame]
  | .showInfo | .decodeUnknown | .pushOrganizationTlv _ | .reverseOrganizationTlvs
  | .clearOrganizationTlvs | .organizationTlvsOf _ | .decodeExtension _ => [.info]
  | .isInfoFresh => [.info, .frame]

/-- What a command can change. -/
def changes : Command → List Subject
  | .decodeFrame _ | .pushValue _ | .removeValue _ | .reverseValues => [.frame]
  | .decodeInfo | .pushOrganizationTlv _ | .reverseOrganizationTlvs
  | .clearOrganizationTlvs => [.info]
  | .load _ => [.frame, .info]
  | .deliver _ | .showFrame | .showInfo | .decodeUnknown | .organizationTlvsOf _
  | .decodeExtension _ | .isInfoFresh => []

/-- The layers that a command delivers. -/
def delivered : Command → List Layer
  | .deliver buffer => Delivery.layersOf buffer
  | _ => []

end Command

theorem withFrame_eq_elim (s : Session) (k : Frame → Reply × Session) :
    s.withFrame k = s.frame?.elim (.noFrame, s) k := by
  rw [withFrame]
  cases s.frame? <;> rfl

theorem withInfo_eq_elim (s : Session) (k : Info → Reply × Session) :
    s.withInfo k = s.info?.elim (.noInfo, s) k := by
  rw [withInfo]
  cases s.info? <;> rfl

/-! ## Refusals -/

/-- The first of some things that is not there. -/
def lacking? (s : Session) (needs : List Subject) : Option Subject :=
  needs.find? fun subject => !s.holds subject

/-- An answer that is a refusal if something is lacking, and then goes with the session as it was. -/
structure Heeds (s : Session) (lacking : Option Subject) (outcome : Reply × Session) : Prop where
  refusal?_eq : outcome.1.refusal? = lacking
  unchanged : ∀ subject, lacking = some subject → outcome.2 = s

section

variable {s : Session} {needs : List Subject}

theorem Heeds.of_answer {outcome : Reply × Session} (answers : outcome.1.refusal? = none) :
    Heeds s (s.lacking? []) outcome :=
  ⟨answers, nofun⟩

theorem lacking?_cons_of_holds {subject : Subject} (held : s.holds subject = true) :
    s.lacking? (subject :: needs) = s.lacking? needs := by
  rw [lacking?, List.find?_cons, held]
  rfl

theorem lacking?_cons_of_not_holds {subject : Subject} (absent : s.holds subject = false) :
    s.lacking? (subject :: needs) = some subject := by
  rw [lacking?, List.find?_cons, absent]
  rfl

/-- A command that goes on with a value needs it first, and then what it goes on with needs. -/
theorem heeds_elim {α : Type} {value? : Option α} {k : α → Reply × Session} {subject : Subject}
    {refusal : Reply} (reads : s.holds subject = value?.isSome)
    (names : refusal.refusal? = some subject) (heeds : ∀ a, Heeds s (s.lacking? needs) (k a)) :
    Heeds s (s.lacking? (subject :: needs)) (value?.elim (refusal, s) k) := by
  cases value? with
  | none =>
      rw [lacking?_cons_of_not_holds reads]
      exact ⟨names, fun _ _ => rfl⟩
  | some a =>
      rw [lacking?_cons_of_holds reads]
      exact heeds a

theorem heeds_withFrame {k : Frame → Reply × Session}
    (heeds : ∀ frame, Heeds s (s.lacking? needs) (k frame)) :
    Heeds s (s.lacking? (.frame :: needs)) (s.withFrame k) := by
  rw [withFrame_eq_elim]
  exact heeds_elim rfl rfl heeds

theorem heeds_withInfo {k : Info → Reply × Session}
    (heeds : ∀ info, Heeds s (s.lacking? needs) (k info)) :
    Heeds s (s.lacking? (.info :: needs)) (s.withInfo k) := by
  rw [withInfo_eq_elim]
  exact heeds_elim rfl rfl heeds

end

/-- A command is refused just if something that it needs is not there.  The answer names the first
such thing, and the session stays as it was. -/
theorem heeds_run (s : Session) (c : Command) : Heeds s (s.lacking? c.needs) (s.run c) := by
  cases c with
  | decodeFrame buffer =>
      apply Heeds.of_answer
      rw [run]
      cases Frame.decode buffer <;> rfl
  | deliver buffer => exact .of_answer rfl
  | load index =>
      apply Heeds.of_answer
      rw [run]
      rcases s.layers[index]? with _ | (frame | info) <;> rfl
  | showFrame | pushValue _ | removeValue _ | reverseValues | decodeInfo =>
      exact heeds_withFrame fun _ => .of_answer rfl
  | showInfo | decodeUnknown | pushOrganizationTlv _ | reverseOrganizationTlvs
  | clearOrganizationTlvs | organizationTlvsOf _ | decodeExtension _ =>
      exact heeds_withInfo fun _ => .of_answer rfl
  | isInfoFresh => exact heeds_withInfo fun _ => heeds_withFrame fun _ => .of_answer rfl

/-! ## Changes -/

/-- How a session comes behind another one if no more than some subjects changed and some layers
were delivered. -/
structure Follows (s : Session) (changed : List Subject) (layers : List Layer) (s' : Session) :
    Prop where
  frame?_eq : .frame ∉ changed → s'.frame? = s.frame?
  info?_eq : .info ∉ changed → s'.info? = s.info?
  /-- What is there is not lost, but for another of its kind. -/
  held : ∀ subject, s.holds subject = true → s'.holds subject = true
  layers_eq : s'.layers = s.layers ++ layers

section

variable {s s' s'' : Session} {changed changed' : List Subject} {layers layers' : List Layer}

theorem Follows.refl : Follows s changed [] s :=
  ⟨fun _ => rfl, fun _ => rfl, fun _ held => held, (List.append_nil _).symm⟩

theorem Follows.trans (first : Follows s changed layers s')
    (last : Follows s' changed' layers' s'') :
    Follows s (changed ++ changed') (layers ++ layers') s'' where
  frame?_eq kept := by
    obtain ⟨kept, kept'⟩ := not_or.mp (mt List.mem_append.mpr kept)
    exact (last.frame?_eq kept').trans (first.frame?_eq kept)
  info?_eq kept := by
    obtain ⟨kept, kept'⟩ := not_or.mp (mt List.mem_append.mpr kept)
    exact (last.info?_eq kept').trans (first.info?_eq kept)
  held subject held := last.held subject (first.held subject held)
  layers_eq := by rw [last.layers_eq, first.layers_eq, List.append_assoc]

theorem follows_setFrame (frame : Frame) (changes : .frame ∈ changed) :
    Follows s changed [] { s with frame? := some frame } where
  frame?_eq kept := absurd changes kept
  info?_eq _ := rfl
  held
    | .frame, _ => rfl
    | .info, held => held
  layers_eq := (List.append_nil _).symm

theorem follows_setInfo (info : Info) (changes : .info ∈ changed) :
    Follows s changed [] { s with info? := some info } where
  frame?_eq _ := rfl
  info?_eq kept := absurd changes kept
  held
    | .frame, held => held
    | .info, _ => rfl
  layers_eq := (List.append_nil _).symm

theorem follows_elim {α : Type} {value? : Option α} {k : α → Reply × Session} {refusal : Reply}
    (follows : ∀ a, Follows s changed [] (k a).2) :
    Follows s changed [] (value?.elim (refusal, s) k).2 := by
  cases value? with
  | none => exact .refl
  | some a => exact follows a

theorem follows_withFrame {k : Frame → Reply × Session}
    (follows : ∀ frame, Follows s changed [] (k frame).2) :
    Follows s changed [] (s.withFrame k).2 := by
  rw [withFrame_eq_elim]
  exact follows_elim follows

theorem follows_withInfo {k : Info → Reply × Session}
    (follows : ∀ info, Follows s changed [] (k info).2) :
    Follows s changed [] (s.withInfo k).2 := by
  rw [withInfo_eq_elim]
  exact follows_elim follows

end

/-- A command changes no more than what it is about. -/
theorem follows_run (s : Session) (c : Command) :
    Follows s c.changes c.delivered (s.run c).2 := by
  cases c with
  | decodeFrame buffer =>
      rw [run]
      cases Frame.decode buffer with
      | ok frame => exact follows_setFrame frame List.mem_cons_self
      | error cause => exact .refl
  | deliver buffer =>
      exact ⟨fun _ => rfl, fun _ => rfl, fun _ held => held,
        congrArg (s.layers ++ ·) (Delivery.layers_ofOctets buffer)⟩
  | load index =>
      rw [run]
      rcases s.layers[index]? with _ | (frame | info)
      · exact .refl
      · exact follows_setFrame frame List.mem_cons_self
      · exact follows_setInfo info (List.mem_cons_of_mem _ List.mem_cons_self)
  | showFrame => exact follows_withFrame fun _ => .refl
  | pushValue _ | removeValue _ | reverseValues =>
      exact follows_withFrame fun _ => follows_setFrame _ List.mem_cons_self
  | decodeInfo => exact follows_withFrame fun _ => follows_setInfo _ List.mem_cons_self
  | showInfo | decodeUnknown | organizationTlvsOf _ | decodeExtension _ =>
      exact follows_withInfo fun _ => .refl
  | pushOrganizationTlv _ | reverseOrganizationTlvs | clearOrganizationTlvs =>
      exact follows_withInfo fun _ => follows_setInfo _ List.mem_cons_self
  | isInfoFresh => exact follows_withInfo fun _ => follows_withFrame fun _ => .refl

/-! ## Runs -/

/-- The session after some commands. -/
def after (s : Session) (cs : List Command) : Session :=
  cs.foldl (fun s c => (s.run c).2) s

/-- A run changes no more than what its commands are about.  What was there before the run is there
after it, and the layers are those from before with the ones delivered behind them. -/
theorem follows_after (s : Session) (cs : List Command) :
    Follows s (cs.flatMap Command.changes) (cs.flatMap Command.delivered) (s.after cs) := by
  induction cs generalizing s with
  | nil => exact .refl
  | cons c cs ih => exact (follows_run s c).trans (ih (s.run c).2)

/-- A command that is not refused now is not refused later. -/
theorem lacking?_after_eq_none {s : Session} {needs : List Subject}
    (heeded : s.lacking? needs = none) (cs : List Command) : (s.after cs).lacking? needs = none := by
  rw [lacking?, List.find?_eq_none] at heeded ⊢
  intro subject needed
  have held : s.holds subject = true := by simpa using heeded subject needed
  simp [(follows_after s cs).held subject held]

theorem run_decodeInfo {s : Session} {frame : Frame} (held : s.frame? = some frame) :
    s.run .decodeInfo =
      (.decodedInfo frame.info, { s with info? := some frame.info.value }) := by
  rw [run, withFrame_eq_elim, held]
  rfl

theorem run_isInfoFresh {s : Session} {frame : Frame} {info : Info}
    (frameHeld : s.frame? = some frame) (infoHeld : s.info? = some info) :
    s.run .isInfoFresh = (.verdict (frame.info.value = info), s) := by
  rw [run, withInfo_eq_elim, infoHeld, Option.elim_some, withFrame_eq_elim, frameHeld]
  rfl

/-- Commands that are not about the info leave the one that was decoded from a frame as it was,
whatever they make of the frame.  It is fresh just if the frame still has that info, and it is the
info of the frame as it is now when it is decoded again. -/
theorem info_until_decoded_again {s : Session} {frame frame' : Frame} {cs : List Command}
    (held : s.frame? = some frame) (edits : ∀ c ∈ cs, .info ∉ c.changes)
    (edited : ((s.run .decodeInfo).2.after cs).frame? = some frame') :
    let s' := (s.run .decodeInfo).2.after cs
    s'.info? = some frame.info.value ∧
      (s'.run .isInfoFresh).1 = .verdict (frame'.info.value = frame.info.value) ∧
      (s'.run .decodeInfo).2.info? = some frame'.info.value := by
  intro s'
  have kept : .info ∉ cs.flatMap Command.changes := by
    intro changed
    obtain ⟨c, member, changed⟩ := List.mem_flatMap.mp changed
    exact edits c member changed
  have info : s'.info? = some frame.info.value := by
    rw [(follows_after _ cs).info?_eq kept, run_decodeInfo held]
  refine ⟨info, ?_, ?_⟩
  · rw [run_isInfoFresh edited info]
  · rw [run_decodeInfo edited]

/-- The commands of a run that are not refused. -/
def heeded (s : Session) : List Command → List Command
  | [] => []
  | c :: cs =>
      match s.lacking? c.needs with
      | some _ => s.heeded cs
      | none => c :: (s.run c).2.heeded cs

/-- The commands that are refused can be left out of a run. -/
theorem after_heeded (s : Session) (cs : List Command) : s.after (s.heeded cs) = s.after cs := by
  induction cs generalizing s with
  | nil => rfl
  | cons c cs ih =>
      rw [heeded]
      cases lacking : s.lacking? c.needs with
      | none => exact ih (s.run c).2
      | some subject =>
          have unchanged : (s.run c).2 = s := (heeds_run s c).unchanged subject lacking
          calc
            s.after (s.heeded cs) = s.after cs := ih s
            _ = (s.run c).2.after cs := by rw [unchanged]

end Lldpdu.Session
