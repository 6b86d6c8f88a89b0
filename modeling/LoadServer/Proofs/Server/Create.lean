import LoadServer.Proofs.Settings.Layers
import LoadServer.Server.Basic

/-!
Which settings give a server. Main statement: of settings that are accepted, those without a limit
of connections give a server without permits, those with a limit give one with exactly so many free
permits, and the limits that are beyond the greatest number of permits are the only exception.
-/

namespace LoadServer

open CommandLine

/-- The greatest number of permits, written out. -/
theorem Permits.greatest_eq : greatest = 2305843009213693951 := by decide

/-- A limit is given as permits exactly if it is not beyond the greatest number of them. -/
theorem Permits.ofLimit_eq (limit : Nat) :
    ofLimit limit =
      if limit ≤ 2305843009213693951 then .ok { free := limit } else .error ⟨limit⟩ := by
  -- The bound is the greatest number of permits, written out.
  rw [ofLimit, greatest_eq]

namespace Server

/-- Settings without a limit give a server without permits. -/
theorem create_of_unlimited {settings : Settings} (unlimited : settings.maxConnections = none)
    (factor : Factor) : create settings factor = .ok ⟨settings, factor, none⟩ := by
  -- Without a limit no permits are made, so nothing can be refused.
  rw [create, unlimited]

/-- Settings with a limit give a server with so many free permits, if there can be so many. -/
theorem create_of_limited {settings : Settings} {limit : UInt64}
    (limited : settings.maxConnections = some limit) (factor : Factor) :
    create settings factor =
      if limit.toNat ≤ 2305843009213693951
        then .ok ⟨settings, factor, some { free := limit.toNat }⟩
        else .error ⟨limit.toNat⟩ := by
  -- Making the permits is all that can fail.
  simp only [create, limited, Permits.ofLimit_eq]
  split_ifs <;> rfl

variable {arguments : List RawText} {options : Options} {text : Option String}
variable {settings : Settings}

/-- Accepted settings give a server with the limit of the command line, else of the document, and
with exactly that many free permits, unless the limit is beyond the greatest number of permits.
Settings are accepted whether it is or not. -/
theorem create_of_validate (accepted : CommandLine.read arguments = .ok options)
    (resolved : Settings.resolve options text = .ok settings)
    (valid : settings.validate = .ok ()) (factor : Factor) :
    Field.maxConnections.IsLayered .maxConnections arguments text settings.maxConnections ∧
    match settings.maxConnections with
    | none => create settings factor = .ok ⟨settings, factor, none⟩
    | some limit =>
      0 < limit.toNat ∧
        (limit.toNat ≤ 2305843009213693951 →
          create settings factor = .ok ⟨settings, factor, some { free := limit.toNat }⟩) ∧
        (2305843009213693951 < limit.toNat →
          create settings factor = .error ⟨limit.toNat⟩) := by
  refine ⟨Field.maxConnections.isLayered_of_resolve accepted resolved rfl, ?_⟩
  cases limited : settings.maxConnections with
  | none => exact create_of_unlimited limited factor
  | some limit =>
    -- Validation has ruled zero out, and nothing else.
    have positive : limit ≠ 0 := by
      obtain ⟨-, nonzero, -⟩ := Settings.validate_eq_ok_iff.mp valid
      rintro rfl
      exact nonzero limited
    have created := create_of_limited limited factor
    refine ⟨?_, fun within => ?_, fun beyond => ?_⟩
    · have nonzero : limit.toNat ≠ 0 := fun zero => positive (UInt64.toNat_inj.mp zero)
      omega
    · rw [created, if_pos within]
    · rw [created, if_neg (by omega)]

/-- One connection more than there can be permits is a limit that is accepted, and that no server
can be created for. -/
theorem create_of_validate_beyond :
    let arguments := ["-n", "1000", "-w", "1", "-l", "bad", "--max-connections",
      "2305843009213693952"].map RawText.ofString
    ∃ options settings, CommandLine.read arguments = .ok options ∧
      Settings.resolve options none = .ok settings ∧ settings.validate = .ok () ∧
      settings.maxConnections = some 2305843009213693952 ∧
      ∀ factor, create settings factor = .error ⟨2305843009213693952⟩ := by
  -- The limit is one above the greatest, and the validation lets it pass.
  intro arguments
  let options : Options := {
    listen := some "bad", calibrationIterations := some 1000, workers := some 1,
    maxConnections := some 2305843009213693952 }
  let settings := Settings.merge options {}
  have accepted : CommandLine.read arguments = .ok options := by decide +kernel
  have resolved : Settings.resolve options none = .ok settings := rfl
  have valid : settings.validate = .ok () := by decide
  refine ⟨options, settings, accepted, resolved, valid, rfl, fun factor => ?_⟩
  obtain ⟨-, -, -, beyond⟩ := create_of_validate accepted resolved valid factor
  exact beyond (by decide)

end Server

end LoadServer
