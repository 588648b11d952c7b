import Mathlib.Data.String.Basic
import Resilience.Proofs.Activity.Reports
import Resilience.Proofs.Service.Stages
import Resilience.Service.Respond

/-!
# Keys that are too long

A look-up refuses a key that is too long in its first turn, before it touches anything
(`Service.turn_of_long`), and no other look-up is answered with the status of a refused key
(`Service.status_answer_ne`). What is measured are the octets of the key. There are at least as many
of them as characters, and just as many if all characters are ASCII (`octets_eq_length_iff`) : every
key with too many characters is refused (`Service.long_key_law`), but so are keys that have not too
many of them (`Service.long_key_of_few_characters`).
-/

namespace Resilience

/-! ## Octets and characters -/

theorem length_le_utf8Len (cs : List Char) : cs.length ≤ String.utf8Len cs := by
  induction cs with
  | nil => exact Nat.le_refl _
  | cons c cs ih =>
    have hpos := c.utf8Size_pos
    rw [List.length_cons, String.utf8Len_cons]
    omega

theorem utf8Len_eq_length_iff (cs : List Char) :
    String.utf8Len cs = cs.length ↔ ∀ c ∈ cs, c.val ≤ 127 := by
  induction cs with
  | nil => simp
  | cons c cs ih =>
    have hpos := c.utf8Size_pos
    have hle := length_le_utf8Len cs
    rw [List.forall_mem_cons, ← ih, ← Char.utf8Size_eq_one_iff, List.length_cons,
      String.utf8Len_cons]
    omega

theorem length_le_octets (s : String) : s.length ≤ s.utf8ByteSize := by
  rw [← String.utf8Len_toList, ← String.length_toList]
  exact length_le_utf8Len _

/-- A text has as many octets as characters if all of these are ASCII. -/
theorem octets_eq_length_iff (s : String) :
    s.utf8ByteSize = s.length ↔ ∀ c ∈ s.toList, c.val ≤ 127 := by
  rw [← String.utf8Len_toList, ← String.length_toList]
  exact utf8Len_eq_length_iff _

namespace Service

variable (s : Service) (key : String)

/-! ## Answers -/

/-- What a look-up comes to that has its handle. -/
theorem eq_answer_of_finished {handle : Cancellation} {looking : Looking} {w : World}
    {result : Except Error Found}
    (h : ((s.lookup key).turn (some (handle, looking)) w).progress = .finished result) :
    ∃ r, result = answer key r := by
  have hanswered : ∀ {b}, (((s.guarded key handle).map (answer key)).turn looking w).progress =
      .finished b → ∃ r, b = answer key r := by
    intro b hb
    unfold Activity.map Turn.inside at hb
    dsimp only at hb
    split at hb
    · cases hb
    · cases hb
    · exact ⟨_, (Progress.finished.inj hb).symm⟩
  unfold lookup Activity.prepare Turn.inside at h
  dsimp only at h
  split at h
  · cases h
  · cases h
  · rename_i b hb
    cases h
    exact hanswered hb

/-- No interruption is taken for a fault of the request. -/
theorem status_interrupted_ne (reason : Interruption) :
    (Error.interrupted reason).status ≠ 400 := by
  cases reason <;> decide

/-- The status of a refused key is that of no answer. -/
theorem status_answer_ne (r : Except (Rate.Error (Retry.Error IoError)) Cache.Answer) :
    (found (answer key r)).status ≠ 400 := by
  rcases r with (_ | reason | reason | _ | _) | a
  · exact (by decide : 429 ≠ 400)
  · exact status_interrupted_ne reason
  · exact status_interrupted_ne reason
  · exact (by decide : 503 ≠ 400)
  · exact (by decide : 500 ≠ 400)
  · exact (by decide : 200 ≠ 400)

variable {s key} {w₀ w : World} {turns : List (LookState × World)}
  {progress : Progress LookState (Except Error Found)} {result : Except Error Found}

/-- A look-up of a key that is too long has not begun, or has been refused as it was. -/
theorem course_of_long (hkey : keyLimit < key.utf8ByteSize)
    (h : (s.lookup key).Course w₀ turns progress w) :
    w = w₀ ∧ (turns = [] ∧ progress = .running none ∨
      turns = [(none, w₀)] ∧ progress = .finished (.error keyTooLong)) := by
  induction h with
  | start => exact ⟨rfl, .inl ⟨rfl, rfl⟩⟩
  | turn _ hs ih =>
    obtain ⟨rfl, ⟨rfl, rfl⟩ | ⟨-, rfl⟩⟩ := ih
    · cases hs
      rw [turn_of_long s key hkey]
      exact ⟨rfl, .inr ⟨rfl, rfl⟩⟩
    · cases hs
  | others _ _ _ ih =>
    obtain ⟨-, ⟨-, hprogress⟩ | ⟨-, hprogress⟩⟩ := ih <;> cases hprogress

/-- A look-up of any other key is not refused. -/
theorem status_ne_of_short (hkey : key.utf8ByteSize ≤ keyLimit)
    (h : (s.lookup key).Course w₀ turns (.finished result) w) : (found result).status ≠ 400 := by
  generalize hprogress : Progress.finished result = progress at h
  cases h with
  | start | others => cases hprogress
  | @turn _ _ state u _ _ =>
    cases state with
    | none =>
      rw [turn_of_short s key hkey] at hprogress
      cases hprogress
    | some state =>
      obtain ⟨r, rfl⟩ := s.eq_answer_of_finished key hprogress.symm
      exact status_answer_ne key r

/-- What becomes of keys, by their octets. A look-up is answered with the status 400 exactly if its
key has more octets than the limit, and then in its first turn, which reports nothing and leaves the
world as it was : bucket, cache, counters and the record of calls. Every other look-up takes a fresh
token in its first turn and tries the limiter in its second. The octets of a key are no fewer than
its characters, and as many exactly if the key is ASCII. -/
theorem long_key_law (s : Service) (key : String) (w₀ : World) :
    describe keyTooLong = "Invalid request: key exceeds maximum length of 256 characters" ∧
    (∀ turns result w, (s.lookup key).Course w₀ turns (.finished result) w →
      ((found result).status = 400 ↔ 256 < key.utf8ByteSize) ∧
      (256 < key.utf8ByteSize →
        result = .error keyTooLong ∧ (s.lookup key).reports turns = [] ∧ w = w₀)) ∧
    (256 < key.utf8ByteSize → ∀ fuel > 0, Session.run fuel (.alone (s.lookup key) w₀) =
      ⟨w₀, [⟨s.lookup key, .finished (.error keyTooLong)⟩], []⟩) ∧
    (key.utf8ByteSize ≤ 256 →
      (s.lookup key).turn none w₀ = ⟨w₀.begun, [], .running (some (handleIn w₀, none))⟩ ∧
      ((s.lookup key).turn (some (handleIn w₀, none)) w₀.begun).upshot =
        open scoped Classical in
        if w₀.Grants then (.running (some (handleIn w₀, some none)), w₀.admitted)
        else (.finished (.error .rateLimited), { w₀.begun with limiter? := w₀.drawn? 0 })) ∧
    key.length ≤ key.utf8ByteSize ∧
    (key.utf8ByteSize = key.length ↔ ∀ c ∈ key.toList, c.val ≤ 127) := by
  refine ⟨by decide, fun turns result w h => ?_, fun hkey fuel hfuel => ?_, fun hkey => ?_,
    length_le_octets key, octets_eq_length_iff key⟩
  · rcases Nat.lt_or_ge 256 key.utf8ByteSize with hkey | hkey
    · obtain ⟨rfl, ⟨-, hprogress⟩ | ⟨rfl, hprogress⟩⟩ := course_of_long hkey h
      · cases hprogress
      · cases hprogress
        refine ⟨⟨fun _ => hkey, fun _ => rfl⟩, fun _ => ⟨rfl, ?_, rfl⟩⟩
        rw [Activity.reports, List.flatMap_singleton, turn_of_long s key hkey]
    · have hnot := Nat.not_lt_of_le hkey
      exact ⟨⟨fun hstatus => absurd hstatus (status_ne_of_short hkey h), fun h => absurd h hnot⟩,
        fun h => absurd h hnot⟩
  · obtain ⟨fuel, rfl⟩ := Nat.exists_eq_succ_of_ne_zero (Nat.ne_of_gt hfuel)
    have hstep : (Session.alone (s.lookup key) w₀).step? =
        some ⟨((s.lookup key).turn none w₀).world,
          [⟨s.lookup key, ((s.lookup key).turn none w₀).progress⟩],
          [] ++ ((s.lookup key).turn none w₀).events⟩ := Session.step?_of_ready rfl
    rw [turn_of_long s key hkey] at hstep
    exact (Session.run_of_step hstep fuel).trans
      (Session.run_of_step_none Session.step?_of_finished fuel)
  · refine ⟨turn_of_short s key hkey w₀, ?_⟩
    split
    · rename_i hgrants
      exact turn_admission_of_grants s key _ hgrants
    · rename_i hgrants
      exact turn_admission_of_not_grants s key _ hgrants

/-- A key of 129 characters is refused for having more than 256. -/
theorem long_key_of_few_characters :
    let s : Service := { retry := {}, timeOfDay := fun _ => "" }
    let key := String.ofList (List.replicate 129 'é')
    key.length = 129 ∧ ∃ turns,
      (s.lookup key).Course {} turns (.finished (.error keyTooLong)) {} ∧
      (found (.error keyTooLong)).status = 400 ∧
      describe keyTooLong = "Invalid request: key exceeds maximum length of 256 characters" := by
  intro s key
  have hchars : key.toList = List.replicate 129 'é' := String.toList_ofList
  have hlength : key.length = 129 := by rw [← String.length_toList, hchars, List.length_replicate]
  have hoctets : key.utf8ByteSize = 258 := by
    rw [← String.utf8Len_toList, hchars]
    decide +kernel
  have hkey : keyLimit < key.utf8ByteSize := by
    rw [hoctets]
    decide
  have hcourse : (s.lookup key).Course {} _ ((s.lookup key).turn none {}).progress
      ((s.lookup key).turn none {}).world := Activity.Course.start.turn rfl
  rw [turn_of_long s key hkey] at hcourse
  exact ⟨hlength, _, hcourse, rfl, by decide⟩

end Service

end Resilience
