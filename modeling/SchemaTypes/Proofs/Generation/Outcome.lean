import Mathlib
import SchemaTypes.Proofs.Declaration.Order
import SchemaTypes.Proofs.Generation.Output

/-!
# What comes of a generation

A generation fails before it writes anything, or it has a document to write and fails only if there
is no room for all of it.

* `Sink.write_of_room`: what a sink with a bound takes.
* `Outline.ofText_eq`: a schema has an outline if it describes objects with properties.
* `Event.message_eq_generated_iff`: the event that tells of a document.
* **`generate_outcome`**: the failure, the output and the last event of a generation.
-/

namespace SchemaTypes

/-! ## Sinks with a bound -/

/-- **A sink with a bound** takes the bytes up to it, and all was taken if it was not exceeded. -/
theorem Sink.write_of_room (n : Nat) (ts : List Text) :
    ((Sink.mk (some n)).write ts).bytes = (Text.utf8 ts.flatten).take n ∧
      (((Sink.mk (some n)).write ts).complete = true ↔ (Text.utf8 ts.flatten).length ≤ n) := by
  induction ts generalizing n with
  | nil => exact ⟨(List.take_nil).symm, fun _ => Nat.zero_le n, fun _ => rfl⟩
  | cons t ts ih =>
    obtain ⟨hbytes, hcomplete⟩ := ih (n - (Text.utf8 t).length)
    have hless : (Sink.mk (some n)).less (Text.utf8 t) =
        ⟨some (n - (Text.utf8 t).length)⟩ := rfl
    rw [List.flatten_cons, Text.utf8_append, List.length_append, write]
    dsimp only
    rw [hless]
    by_cases hfits : (Text.utf8 t).length ≤ n
    · have hfits' : (Sink.mk (some n)).fits (Text.utf8 t) = true := by simpa [fits] using hfits
      rw [if_pos hfits', List.take_append, List.take_of_length_le hfits]
      dsimp only
      rw [hbytes, hcomplete]
      exact ⟨rfl, by omega⟩
    · have hfits' : ¬(Sink.mk (some n)).fits (Text.utf8 t) = true := by simpa [fits] using hfits
      rw [if_neg hfits', List.take_append_of_le_length (by omega)]
      refine ⟨rfl, fun h => Bool.noConfusion h, fun h => ?_⟩
      omega

/-! ## Outlines -/

/-- **What a schema needs to have an outline.** -/
theorem Outline.ofText_eq (dates : DateType) (text : Text) :
    match Schema.ofText text with
    | .error fault => ofText dates text = .error (.json text fault)
    | .ok root =>
      if root.type ≠ some ("object" : Text) then ofText dates text = .error .rootNotObject
      else if root.properties.getD [] = [] then ofText dates text = .error .noTypes
      else ∃ o, ofText dates text = .ok o := by
  unfold ofText
  cases Schema.ofText text with
  | error fault => rfl
  | ok root =>
    dsimp only
    unfold ofSchema
    by_cases htype : root.type = some ("object" : Text)
    · rw [if_neg (not_not.mpr htype), if_pos htype]
      dsimp only
      have hempty := isEmpty_types_ofSchema dates (rootName root.title) root
      by_cases hnone : root.properties.getD [] = []
      · rw [if_pos hnone, if_pos (hempty.mpr hnone)]
      · rw [if_neg hnone, if_neg (mt hempty.mp hnone)]
        exact ⟨_, rfl⟩
    · rw [if_pos htype, if_neg htype]

/-! ## Events -/

theorem Event.message_eq_generated_iff (e : Event) :
    e.message = ("generated TypeScript" : Text) ↔
      ∃ types enums root, e = .generated types enums root := by
  cases e with
  | generated types enums root => exact ⟨fun _ => ⟨types, enums, root, rfl⟩, fun _ => rfl⟩
  | _ =>
    constructor
    · intro h
      exact absurd h (by unfold message; cbv; decide)
    · rintro ⟨types, enums, root, h⟩
      cases h

theorem Outline.message_ne_generated {s : Settings} {o : Outline} {e : Event}
    (he : e ∈ o.events s) : e.message ≠ ("generated TypeScript" : Text) := by
  intro h
  obtain ⟨types, enums, root, rfl⟩ := e.message_eq_generated_iff.mp h
  unfold events at he
  simp only [List.mem_append, List.mem_map] at he
  rcases he with (he | ⟨name, _, he⟩) | ⟨t, _, he⟩
  · unfold Settings.indexEvents ExtensionIndex.eventsOf at he
    split at he
    · exact absurd he List.not_mem_nil
    · dsimp only at he
      split at he <;> simp at he
  · exact absurd he nofun
  · unfold Settings.templateEvent at he
    split_ifs at he

/-! ## Outcomes -/

section Outcomes

variable {s : Settings} {schema : Text}

theorem generate_of_error {f : Failure} (h : Outline.ofText s.dateType schema = .error f)
    (sink : Sink) : generate s schema sink = ⟨some f, [], s, []⟩ := by
  unfold generate
  rw [h]

/-- **With an outline** the sink takes what it has room for of the document. -/
theorem generate_of_ok {o : Outline} (h : Outline.ofText s.dateType schema = .ok o) (room : Nat) :
    let g := generate s schema { room := some room }
    let full := (generate s schema {}).output
    g.output = full.take room ∧
      g.failure = (if full.length ≤ room then none else some (.file .full)) ∧
      g.events = o.events s ++ if full.length ≤ room then [o.generatedEvent] else [] := by
  intro g full
  have hfull : full = Text.utf8 (documentPieces s o).flatten := by
    show (generate s schema {}).output = _
    unfold generate
    rw [h]
    exact Sink.bytes_write (Sink.complete_write rfl _)
  obtain ⟨hbytes, hcomplete⟩ := Sink.write_of_room room (documentPieces s o)
  rw [← hfull] at hbytes hcomplete
  have hg : g = generate s schema { room := some room } := rfl
  unfold generate at hg
  rw [h] at hg
  simp only [hcomplete, hbytes] at hg
  rw [hg]
  exact ⟨rfl, rfl, rfl⟩

theorem exists_message_generated_iff (s : Settings) (o : Outline) (p : Prop) [Decidable p] :
    (∃ e ∈ o.events s ++ (if p then [o.generatedEvent] else []),
      e.message = ("generated TypeScript" : Text)) ↔ p := by
  constructor
  · rintro ⟨e, he, hmessage⟩
    rcases List.mem_append.mp he with he | he
    · exact absurd hmessage (Outline.message_ne_generated he)
    · split_ifs at he with hp
      · exact hp
      · exact absurd he List.not_mem_nil
  · intro hp
    rw [if_pos hp]
    exact ⟨_, List.mem_append_right _ (List.mem_singleton_self _), rfl⟩

end Outcomes

/-- **The outcome of a generation** into a sink with room for some bytes. A text that is no schema,
a schema that does not describe objects and one without properties fail each in its own way, and
nothing is written. Any other schema has a document, of which the sink takes the bytes that it has
room for; there is a failure only if that is not all. The event that tells of a document is there
if there is no failure, and never otherwise. -/
theorem generate_outcome (s : Settings) (schema : Text) (room : Nat) :
    let g := generate s schema { room := some room }
    let full := (generate s schema {}).output
    (match Schema.ofText schema with
      | .error fault => g.failure = some (.json schema fault) ∧ g.output = []
      | .ok root =>
        if root.type ≠ some ("object" : Text) then
          g.failure = some .rootNotObject ∧ g.output = []
        else if root.properties.getD [] = [] then g.failure = some .noTypes ∧ g.output = []
        else
          (generate s schema {}).failure = none ∧ g.output = full.take room ∧
            g.failure = (if full.length ≤ room then none else some (.file .full))) ∧
      ((∃ e ∈ g.events, e.message = ("generated TypeScript" : Text)) ↔ g.failure = none) := by
  intro g full
  have houtline := Outline.ofText_eq s.dateType schema
  have hfailed : ∀ f, Outline.ofText s.dateType schema = .error f →
      (g.failure = some f ∧ g.output = []) ∧
        ((∃ e ∈ g.events, e.message = ("generated TypeScript" : Text)) ↔ g.failure = none) := by
    intro f hf
    have hg : g = ⟨some f, [], s, []⟩ := generate_of_error hf _
    rw [hg]
    exact ⟨⟨rfl, rfl⟩, fun ⟨e, he, _⟩ => absurd he List.not_mem_nil, nofun⟩
  split at houtline
  · exact hfailed _ houtline
  · next root _ =>
    by_cases htype : root.type ≠ some ("object" : Text)
    · rw [if_pos htype] at houtline ⊢
      exact hfailed _ houtline
    rw [if_neg htype] at houtline ⊢
    by_cases hnone : root.properties.getD [] = []
    · rw [if_pos hnone] at houtline ⊢
      exact hfailed _ houtline
    rw [if_neg hnone] at houtline ⊢
    obtain ⟨o, ho⟩ := houtline
    obtain ⟨houtput, hfailure, hevents⟩ := generate_of_ok ho room
    refine ⟨⟨failure_generate ho rfl, houtput, hfailure⟩, ?_⟩
    rw [show g.events = _ from hevents, show g.failure = _ from hfailure,
      exists_message_generated_iff]
    split_ifs with hroom
    · exact ⟨fun _ => rfl, fun _ => hroom⟩
    · exact ⟨fun h => absurd h hroom, nofun⟩

end SchemaTypes
