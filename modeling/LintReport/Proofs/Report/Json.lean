import LintReport.Proofs.Diagnostic.Json
import LintReport.Proofs.Json.Scan
import LintReport.Report.Json

namespace LintReport

open Json (Reader Record)

theorem Entry.reads {e : Entry} (h : e = .of e.diagnostic) : reader.Reads 4 e.toJson e := by
  intro p hp
  refine Record.read_object hp (s := { diagnostic := some e.diagnostic }) ?members ?build
  case members =>
    rw [Record.readMembers_fill rfl rfl e.diagnostic.reads hp.inner]
    simp only [Record.readMembers_skip, record, Json.RecordField.of, List.forall_mem_singleton,
      ne_eq, String.reduceEq, not_false_eq_true]
    rfl
  case build => exact congrArg Except.ok h.symm

theorem Version.reads (v : Version) : reader.Reads 1 v.toJson v := by
  intro p hp
  refine Record.read_object hp (s := { major := some v.major, minor := some v.minor }) ?_ rfl
  rw [Record.readMembers_fill rfl rfl (.word32 v.major) hp.inner,
    Record.readMembers_fill rfl rfl (.word32 v.minor) hp.inner]
  rfl

theorem Summary.Fits.reads {s : Summary} (h : s.Fits) : reader.Reads 1 s.toJson s := by
  intro p hp
  have ⟨ht, he, hw, hs, hf, hi⟩ := h
  refine Record.read_object hp
    (s := ⟨some s.total, some s.errors, some s.warnings, some s.severe, some s.files,
      some s.ignored⟩)
    ?_ rfl
  rw [Record.readMembers_fill rfl rfl (.word64 ht) hp.inner,
    Record.readMembers_fill rfl rfl (.word64 he) hp.inner,
    Record.readMembers_fill rfl rfl (.word64 hw) hp.inner,
    Record.readMembers_fill rfl rfl (.word64 hs) hp.inner,
    Record.readMembers_fill rfl rfl (.word64 hf) hp.inner,
    Record.readMembers_fill rfl rfl (.word64 hi) hp.inner]
  rfl

namespace Report

def Canonical (r : Report) : Prop :=
  ∀ e ∈ r.entries, e = .of e.diagnostic

variable {r : Report}

theorem Canonical.reads (hc : r.Canonical) (hf : r.summary.Fits) : reader.Reads 6 r.toJson r := by
  intro p hp
  have hi := hp.inner
  have he := Reader.Reads.list fun e he => Entry.reads (hc e he)
  refine Record.read_object hp
    (s := ⟨some r.version, some r.timestamp, some r.summary, some r.entries⟩) ?_ rfl
  rw [Record.readMembers_fill rfl rfl r.version.reads (hi.mono (by decide)),
    Record.readMembers_fill rfl rfl (.string r.timestamp) (hi.mono (by decide)),
    Record.readMembers_fill rfl rfl hf.reads (hi.mono (by decide)),
    Record.readMembers_fill rfl rfl he hi]
  rfl

theorem Canonical.load_stored (hc : r.Canonical) (hf : r.summary.Fits) : load r.stored = .ok r :=
  (hc.reads hf).decode_pretty (by decide)

end Report

end LintReport
