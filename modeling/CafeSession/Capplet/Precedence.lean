import CafeSession.Overlay.Layers

namespace CafeSession.Capplet

open CafeSession.Overlay

variable {Content : Type*}

/-- A created or changed file, in the order of the tests of `gsp_app_new`. -/
def arrive (limit index : Nat) (content : Option Content) :
    Option (Choice Content) → Option (Choice Content)
  | none => content.map (fun content => ⟨content, index, if 0 < index then index else limit⟩)
  | some chosen =>
      if chosen.position < index then
        some { chosen with systemPosition := min index chosen.systemPosition }
      else match content with
        | some content =>
            some ⟨content, index, if 0 < index then index else chosen.systemPosition⟩
        | none => some chosen

/-- A deleted file, in the order of the tests of `_gsp_app_manager_handle_delete`:
`next` is the directory that it finds, `contents` what the directories hold. -/
def leave (limit index next : Nat) (contents : Nat → Option Content) :
    Option (Choice Content) → Option (Choice Content)
  | none => none
  | some chosen =>
      if chosen.systemPosition < index ∨ index < chosen.position then some chosen
      else if chosen.position = index ∧
          (chosen.systemPosition = index ∨ chosen.systemPosition = limit) then none
      else if chosen.systemPosition = index then some { chosen with systemPosition := next }
      else (contents chosen.systemPosition).map (fun content =>
        ⟨content, chosen.systemPosition, chosen.systemPosition⟩)

/-- The file and system positions that are shown. -/
def places (chosen : Choice Content) : Nat × Nat :=
  (chosen.position, chosen.systemPosition)

/-- A change of a file that the shown positions are ready for. -/
structure ArrivalSeen (limit : Nat) (now : Layers Content) (settled : Nat → Prop)
    (places : Option (Nat × Nat)) (index : Nat) : Prop where
  /-- a usable file of the user comes over no system file but the one that is shown -/
  user : index = 0 → (now 0).content ≠ none → ∀ other, 0 < other → settled other →
    now other ≠ .absent → (places.map Prod.snd).getD limit ≤ other
  /-- the shown file stays usable -/
  usable : ∀ position systemPosition, places = some (position, systemPosition) →
    position = index → settled index → (now index).content ≠ none

/-- A deletion that the shown positions are ready for. -/
structure DeletionSeen (limit : Nat) (now : Layers Content) (settled loadable : Nat → Prop)
    (position systemPosition index : Nat) : Prop where
  /-- no unusable system file is deleted before the one that is shown -/
  passedOver : 0 < index → position ≤ index
  /-- no system file is deleted before the system position of a user file -/
  underUser : 0 < index → position = 0 → systemPosition ≤ index
  /-- the shown system file is the last usable one -/
  last : position = index → systemPosition = index → ∀ other, index < other → settled other →
    (now other).content = none
  /-- every later file is one that can be loaded, or comes after one -/
  following : position = 0 → systemPosition = index → ∀ other, index < other → settled other →
    now other ≠ .absent → ∃ first, index < first ∧ first ≤ other ∧ loadable first
  /-- a user file that is deleted leaves a usable file at the system position -/
  promoted : position = 0 → index = 0 → systemPosition ≠ limit →
    (now systemPosition).content ≠ none

section Arrival

variable {limit index : Nat} {now believed : Layers Content} {settled : Nat → Prop}
variable {choice : Option (Choice Content)}

/-- Only layers that are settled, or that the choice names, are believed to hold anything. -/
theorem frugal_of_shows (shows : believed.Shows limit choice)
    (right : ∀ other, settled other → other ≠ index → believed other = now other) :
    ∃ frugal : Layers Content, frugal.Shows limit choice ∧
      (∀ other, settled other → other ≠ index → frugal other = now other) ∧
      ∀ other, frugal other ≠ .absent → settled other ∨
        ∃ chosen, choice = some chosen ∧
          (other = chosen.position ∨ other = chosen.systemPosition) := by
  classical
  let kept (other : Nat) : Prop := settled other ∨
    ∃ chosen, choice = some chosen ∧ (other = chosen.position ∨ other = chosen.systemPosition)
  refine ⟨believed.keep kept, shows.keep fun chosen same => ?_, ?_, ?_⟩
  · exact ⟨.inr ⟨chosen, same, .inl rfl⟩, .inr ⟨chosen, same, .inr rfl⟩⟩
  · intro other isSettled different
    rw [Layers.keep_of_kept (.inl isSettled)]
    exact right other isSettled different
  · intro other present
    by_contra dropped
    exact present (if_neg dropped)

/-- Taking in a file that is there keeps the choice that the believed files call for. -/
theorem arrive_shows (shows : believed.Shows limit choice) (inside : index < limit)
    (right : ∀ other, settled other → other ≠ index → believed other = now other)
    (there : settled index → now index ≠ .absent)
    (seen : ArrivalSeen limit now settled (choice.map places) index) :
    ∃ after : Layers Content, (∀ other, settled other → after other = now other) ∧
      after.Shows limit (arrive limit index (now index).content choice) := by
  classical
  obtain ⟨frugal, shows, right, few⟩ := frugal_of_shows shows right
  obtain ⟨slot, present, content, isNow⟩ : ∃ slot : Slot Content, slot ≠ .absent ∧
      slot.content = (now index).content ∧ (settled index → slot = now index) := by
    by_cases present : now index = .absent
    · refine ⟨.passedOver, by simp, by simp [present, Slot.content], fun isSettled => ?_⟩
      exact absurd present (there isSettled)
    · exact ⟨now index, present, rfl, fun _ => rfl⟩
  have agrees (other : Nat) (isSettled : settled other) :
      Function.update frugal index slot other = now other := by
    by_cases same : other = index
    · subst same
      rw [Function.update_self, isNow isSettled]
    · rw [Function.update_of_ne same]
      exact right other isSettled same
  have updated {choice' : Option (Choice Content)}
      (shows' : Layers.Shows limit (Function.update frugal index slot) choice') :
      ∃ after : Layers Content, (∀ other, settled other → after other = now other) ∧
        after.Shows limit choice' :=
    ⟨_, agrees, shows'⟩
  -- The choice stands although the file is of no use: that must not be the last word on it.
  have stale (unusable : slot.content = none) {position systemPosition : Nat}
      (placed : choice.map places = some (position, systemPosition)) (same : position = index) :
      ∀ other, settled other → frugal other = now other := by
    intro other isSettled
    apply right other isSettled
    rintro rfl
    exact seen.usable _ _ placed same isSettled (content ▸ unusable)
  rw [← content]
  cases shows with
  | nothing unusable =>
      have shows : frugal.Shows limit none := .nothing unusable
      cases usable : slot.content with
      | none => exact updated (shows.update_unusable usable nofun)
      | some found =>
          rcases Nat.eq_zero_or_pos index with rfl | under
          · have next : frugal.First limit limit := by
              refine ⟨.inl rfl, fun other member => ?_⟩
              rcases Set.mem_insert_iff.mp member with limited | ⟨under, present⟩
              · exact limited.ge
              · obtain isSettled | ⟨_, impossible, _⟩ := few other present
                · have needed : (now 0).content ≠ none := by simp [← content, usable]
                  rw [right other isSettled (by omega)] at present
                  simpa using seen.user rfl needed other under isSettled present
                · cases impossible
            simpa [arrive] using updated (.update_top next usable)
          · have shown := shows.update_first usable under inside nofun
            simpa [arrive, under] using updated shown
  | @top found first usable next =>
      have shows : frugal.Shows limit (some ⟨found, 0, first⟩) := .top usable next
      rcases Nat.eq_zero_or_pos index with rfl | under
      · cases usable' : slot.content with
        | none => exact ⟨frugal, stale usable' rfl rfl, by simpa [arrive] using shows⟩
        | some found' => simpa [arrive] using updated (.update_top next usable')
      · simpa [arrive, under] using
          updated (shows.update_under_top under (next.add present under))
  | @below found first under small usable unusable =>
      have shows : frugal.Shows limit (some ⟨found, first, first⟩) :=
        .below under small usable unusable
      rcases Nat.lt_or_ge first index with behind | before
      · have shown := updated (shows.update_behind under behind)
        simpa [arrive, behind, min_eq_right behind.le] using shown
      · have notBehind : ¬ first < index := by omega
        cases usable' : slot.content with
        | none =>
            rcases before.lt_or_eq with earlier | same
            · have shown := shows.update_unusable usable' (by
                rintro _ ⟨rfl⟩
                exact ⟨under, earlier.ne⟩)
              simpa [arrive, notBehind] using updated shown
            · exact ⟨frugal, stale usable' rfl same.symm, by simpa [arrive, notBehind] using shows⟩
        | some found' =>
            rcases Nat.eq_zero_or_pos index with rfl | notUser
            · have next : frugal.First limit first := by
                refine ⟨.inr ⟨under, Slot.present usable⟩, fun other member => ?_⟩
                rcases Set.mem_insert_iff.mp member with limited | ⟨under, present⟩
                · omega
                · obtain isSettled | ⟨_, ⟨rfl⟩, same | same⟩ := few other present
                  · have needed : (now 0).content ≠ none := by simp [← content, usable']
                    rw [right other isSettled (by omega)] at present
                    simpa [places] using seen.user rfl needed other under isSettled present
                  · exact same.ge
                  · exact same.ge
              simpa [arrive] using updated (.update_top next usable')
            · have shown := shows.update_first usable' notUser inside (by
                rintro _ ⟨rfl⟩
                exact ⟨under, before⟩)
              simpa [arrive, notBehind, notUser] using updated shown

/-- Taking in that a file is gone keeps the choice that the believed files call for. -/
theorem leave_shows {loadable : Nat → Prop} {next' : Nat} (shows : believed.Shows limit choice)
    (inside : index < limit)
    (right : ∀ other, settled other → other ≠ index → believed other = now other)
    (gone : settled index → now index = .absent)
    (bounded : ∀ other, limit ≤ other → settled other ∧ now other = .absent)
    (found : IsLeast (insert limit {other | index < other ∧ loadable other}) next')
    (there : ∀ other, loadable other → now other ≠ .absent)
    (seen : ∀ chosen, choice = some chosen →
      DeletionSeen limit now settled loadable chosen.position chosen.systemPosition index) :
    ∃ after : Layers Content, (∀ other, settled other → after other = now other) ∧
      after.Shows limit
        (leave limit index next' (fun other => (now other).content) choice) := by
  obtain ⟨frugal, shows, right, few⟩ := frugal_of_shows shows right
  have removed {layers : Layers Content} {choice' : Option (Choice Content)}
      (right' : ∀ other, settled other → other ≠ index → layers other = now other)
      (shows' : Layers.Shows limit (Function.update layers index .absent) choice') :
      ∃ after : Layers Content, (∀ other, settled other → after other = now other) ∧
        after.Shows limit choice' := by
    refine ⟨_, fun other isSettled => ?_, shows'⟩
    by_cases same : other = index
    · subst same
      rw [Function.update_self, gone isSettled]
    · rw [Function.update_of_ne same]
      exact right' other isSettled same
  -- One more layer may be brought up to date.
  have refreshed (layer other : Nat) (isSettled : settled other) (different : other ≠ index) :
      Function.update frugal layer (now layer) other = now other := by
    by_cases same : other = layer
    · rw [same, Function.update_self]
    · rw [Function.update_of_ne same]
      exact right other isSettled different
  cases shows with
  | nothing unusable =>
      have shows : frugal.Shows limit none := .nothing unusable
      exact removed right (shows.update_unusable rfl nofun)
  | @top content first usable next =>
      have shows : frugal.Shows limit (some ⟨content, 0, first⟩) := .top usable next
      have seen := seen _ rfl
      have first_le : first ≤ limit := next.2 (.inl rfl)
      rcases Nat.eq_zero_or_pos index with rfl | under
      · rcases first_le.eq_or_lt with rfl | small
        · have shown := next.clear (fun other after under => by
            obtain ⟨isSettled, absent⟩ := bounded other after
            rw [right other isSettled under.ne', absent]
            rfl)
          simpa [leave] using removed right shown
        · have present := next.present small
          cases promoted : (now first).content with
          | none => exact absurd promoted (seen.promoted rfl rfl small.ne)
          | some content' =>
              have shown := removed (refreshed first) (next.promote small promoted)
              simpa [leave, present.1.ne', small.ne, promoted] using shown
      · rcases Nat.lt_trichotomy first index with behind | same | before
        · have shown := removed right (shows.update_under_top under (next.update_later behind))
          simpa [leave, behind] using shown
        · subst same
          have later : first < next' := by
            rcases Set.mem_insert_iff.mp found.1 with limited | ⟨later, _⟩
            · omega
            · exact later
          have low : next' ≤ limit := found.2 (.inl rfl)
          have present : next' ≠ limit → now next' ≠ .absent := by
            intro inside
            rcases Set.mem_insert_iff.mp found.1 with limited | ⟨_, loads⟩
            · exact absurd limited inside
            · exact there next' loads
          -- Behind the file that went, all that is settled is at the new position or after it.
          have behind : ∀ other, first < other → frugal other ≠ .absent → next' ≤ other := by
            intro other after occupied
            obtain isSettled | ⟨_, ⟨rfl⟩, same | same⟩ := few other occupied
            · rw [right other isSettled after.ne'] at occupied
              obtain ⟨loaded, loadedLater, notAfter, loads⟩ :=
                seen.following rfl rfl other after isSettled occupied
              exact (found.2 (.inr ⟨loadedLater, loads⟩)).trans notAfter
            · exact absurd same (under.trans after).ne'
            · exact absurd same after.ne'
          have shown : Layers.Shows limit (Function.update
              (Function.update frugal next' (now next')) first .absent)
              (some ⟨content, 0, next'⟩) := by
            refine .top ?_ (next.advance later low present behind)
            have above : 0 ≠ next' := by omega
            rwa [Layers.content_update_of_ne under.ne, Layers.content_update_of_ne above]
          have notLimit : first ≠ limit := by omega
          simpa [leave, under.ne, notLimit] using removed (refreshed next') shown
        · have := seen.underUser under rfl
          simp only at this
          omega
  | @below content first under small usable unusable =>
      have shows : frugal.Shows limit (some ⟨content, first, first⟩) :=
        .below under small usable unusable
      have seen := seen _ rfl
      rcases Nat.lt_trichotomy first index with behind | same | before
      · have shown := removed right (shows.update_behind under behind)
        simpa [leave, behind] using shown
      · subst same
        have behind : ∀ other, first < other → (frugal other).content = none := by
          intro other after
          by_cases present : frugal other = .absent
          · simp [present]
          · obtain isSettled | ⟨_, ⟨rfl⟩, same | same⟩ := few other present
            · rw [right other isSettled after.ne']
              exact seen.last rfl rfl other after isSettled
            · exact absurd same after.ne'
            · exact absurd same after.ne'
        have shown := shows.clear under behind
        simpa [leave] using removed right shown
      · have user : index = 0 := by
          by_contra system
          have := seen.passedOver (by omega)
          simp only at this
          omega
        have shown : Layers.Shows limit (Function.update frugal index .absent)
            (some ⟨content, first, first⟩) := by
          refine shows.update_unusable rfl ?_
          rintro _ ⟨rfl⟩
          exact ⟨under, before.ne⟩
        simpa [leave, before] using removed right shown

end Arrival

end CafeSession.Capplet
