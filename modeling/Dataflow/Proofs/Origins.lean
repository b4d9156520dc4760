import Dataflow.Proofs.Runs

/-!
# Where results come from

Whatever took off is a flight with the node and the schema that were registered then, and a result
that has landed is what its flight came to.
-/

namespace Dataflow

namespace World

variable {w : World} {ticket : Nat}

/-- The flight took off behind `earlier`, with what was registered there. -/
structure Departed (w : World) (ticket : Nat) (f : Flight) (earlier : List Event) : Prop where
  flight : w.flights[ticket]? = some f
  journal : ∃ later, w.journal = later ++ .takenOff f.work.host f.work.slot ticket :: earlier
  target : f.work.target = Journal.target f.work.host f.work.slot earlier

lemma departure_of_ledger {d : Departure} (hd : w.ledger.flights[ticket]? = some d) :
    ∃ f, w.flights[ticket]? = some f ∧ f.departure = d := by
  have hmap : (w.flights.map Flight.departure)[ticket]? = some d := hd
  rw [List.getElem?_map, Option.map_eq_some_iff] at hmap
  exact hmap

lemma Flight.status_of_landed {f : Flight} {r : Result} (h : f.departure.landed = some r) :
    f.status = .landed r := by
  have h' : f.status.result? = some r := h
  cases hs : f.status with
  | landed r' =>
    rw [hs] at h'
    cases h'
    rfl
  | _ =>
    rw [hs] at h'
    cases h'

lemma Sane.origin (h : w.Sane) {f : Flight} (hf : w.flights[ticket]? = some f) :
    ∃ earlier, w.Departed ticket f earlier := by
  obtain ⟨later, earlier, hj, ht⟩ := h.sound.logged.target ticket f.departure (flights_ledger hf)
  exact ⟨earlier, hf, ⟨later, hj⟩, ht⟩

lemma Departed.takenOff {f : Flight} {earlier : List Event} (h : w.Departed ticket f earlier) :
    .takenOff f.work.host f.work.slot ticket ∈ w.journal := by
  obtain ⟨later, hj⟩ := h.journal
  rw [hj]
  exact List.mem_append_right _ List.mem_cons_self

lemma Sane.takenOff (h : w.Sane) {f : Flight} (hf : w.flights[ticket]? = some f) :
    .takenOff f.work.host f.work.slot ticket ∈ w.journal := by
  obtain ⟨earlier, hd⟩ := h.origin hf
  exact hd.takenOff

lemma Sane.departed (h : w.Sane) {host : String} {slot : Slot} {later earlier : List Event}
    (hj : w.journal = later ++ .takenOff host slot ticket :: earlier) :
    ∃ f, w.Departed ticket f earlier ∧ f.work.host = host ∧ f.work.slot = slot := by
  have hlaw : Lawful w.policy w.journal := h.sound.lawful
  have hm : .takenOff host slot ticket ∈ w.journal := by
    rw [hj]
    exact List.mem_append_right _ List.mem_cons_self
  have hlt : ticket < w.ledger.flights.length := h.sound.logged.count ▸ hlaw.ticket_lt hm
  have hd := List.getElem?_eq_getElem hlt
  obtain ⟨f, hf, -⟩ := departure_of_ledger hd
  obtain ⟨earlier', hdep⟩ := h.origin hf
  obtain ⟨hhost, hslot⟩ := hlaw.eq_of_takenOff hdep.takenOff hm
  obtain ⟨later', hsplit⟩ := hdep.journal
  rw [hj] at hlaw
  obtain ⟨-, rfl⟩ := hlaw.eq_of_split (hj.symm.trans hsplit)
  exact ⟨f, hdep, hhost, hslot⟩

lemma Sane.landed (h : w.Sane) {host : String} {slot : Slot} {r : Result} {kept : Bool}
    (hm : .landed host slot ticket r kept ∈ w.journal) :
    ∃ f, w.flights[ticket]? = some f ∧ f.status = .landed r ∧ f.work.Yields r.content := by
  obtain ⟨-, d, hd, hl, -⟩ := h.sound.logged.landing host slot ticket r kept hm
  obtain ⟨f, hf, rfl⟩ := departure_of_ledger hd
  have hs := Flight.status_of_landed hl
  exact ⟨f, hf, hs, (h.poised.steady.flights ticket f hf).yields r hs⟩

end World

end Dataflow
