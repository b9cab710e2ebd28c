/-
The order of a plan does not matter.

The program goes through a plan in order three times.  The scan holds each region's ranges against
those of the regions before it, the edits are listed region by region, and the last look stops at
the first region that is still there.  Each time the order shows only in which fault is reported.
The ranges of a region depend on no other region, two regions overlap or not whichever comes first,
the edits are carried out in the order of the text, and the last look finds nothing exactly if it
finds nothing for any region.

So a scan that succeeds is described by two facts about the regions without an order in them, which
is what `Scannable` says, and they carry over to every permutation.  A region that is optional and
missing has no ranges and no part in any of this, so a plan may have any number of them, anywhere.
-/
import Mathlib.Data.List.Zip
import LineCut.Proofs.Removal

namespace LineCut

variable {lines : List String} {regions : List Region} {scans : List RegionScan}

/-! ### A scan without its order -/

/-- The ranges of a region in a text, none if looking for it fails. -/
def rangesOf (lines : List String) (region : Region) : List LineRange :=
  match scanOptional lines region with
  | .ok ranges => ranges
  | .error _ => []

/-- What is found for a region in a text. -/
def scanOf (lines : List String) (region : Region) : RegionScan where
  name := region.name
  ranges := rangesOf lines region

/-- No range of the one region overlaps a range of the other. -/
def Separate (lines : List String) (region other : Region) : Prop :=
  ∀ range ∈ rangesOf lines region, ∀ later ∈ rangesOf lines other, range.overlaps later = false

/-- Looking for each region succeeds, and no two of them get in each other's way. -/
structure Scannable (lines : List String) (regions : List Region) : Prop where
  /-- Each region is found or need not be. -/
  resolves : ∀ region ∈ regions, scanOptional lines region = .ok (rangesOf lines region)
  /-- Any two regions have their lines to themselves. -/
  separate : regions.Pairwise (Separate lines)

theorem rangesOf_of_scanOptional {region : Region} {ranges : List LineRange}
    (h : scanOptional lines region = .ok ranges) : rangesOf lines region = ranges := by
  simp [rangesOf, h]

theorem Separate.symm {region other : Region} (h : Separate lines region other) :
    Separate lines other region := by
  intro range hrange later hlater
  rw [LineRange.overlaps_comm]
  exact h later hlater range hrange

theorem scannable_cons_iff {region : Region} {rest : List Region} :
    Scannable lines (region :: rest) ↔
      scanOptional lines region = .ok (rangesOf lines region) ∧
        (∀ other ∈ rest, Separate lines region other) ∧ Scannable lines rest := by
  constructor
  · rintro ⟨hresolves, hseparate⟩
    obtain ⟨hfirst, hrest⟩ := List.pairwise_cons.mp hseparate
    exact ⟨hresolves region (by simp), hfirst,
      fun other hother => hresolves other (by simp [hother]), hrest⟩
  · rintro ⟨hregion, hfirst, hresolves, hseparate⟩
    refine ⟨?_, List.pairwise_cons.mpr ⟨hfirst, hseparate⟩⟩
    intro other hother
    rcases List.mem_cons.mp hother with rfl | hlater
    · exact hregion
    · exact hresolves other hlater

/-- **What a scan comes to when there are ranges already.**  The induction is on the regions; the
ranges of each join those that the later ones are held against. -/
theorem scanAfter_eq_ok_iff {earlier : List LineRange} :
    scanAfter lines earlier regions = .ok scans ↔
      Scannable lines regions ∧
        (∀ prior ∈ earlier, ∀ region ∈ regions, ∀ range ∈ rangesOf lines region,
          prior.overlaps range = false) ∧
        scans = regions.map (scanOf lines) := by
  induction regions generalizing earlier scans with
  | nil =>
      constructor
      · intro h
        cases h
        exact ⟨⟨by simp, .nil⟩, by simp, rfl⟩
      · rintro ⟨-, -, rfl⟩
        rfl
  | cons region rest ih =>
      rw [scanAfter_cons_eq_ok_iff, scannable_cons_iff]
      constructor
      · rintro ⟨ranges, later, hscan, hclash, hrest, rfl⟩
        obtain rfl := rangesOf_of_scanOptional hscan
        obtain ⟨hscannable, hearlier, rfl⟩ := ih.mp hrest
        refine ⟨⟨hscan, ?_, hscannable⟩, ?_, rfl⟩
        · intro other hother range hrange
          exact hearlier range (by simp [hrange]) other hother
        · intro prior hp other hother
          rcases List.mem_cons.mp hother with rfl | hlater
          · exact clash_eq_none_iff.mp hclash prior hp
          · exact hearlier prior (by simp [hp]) other hlater
      · rintro ⟨⟨hscan, hfirst, hscannable⟩, hearlier, rfl⟩
        have hclash : clash earlier (rangesOf lines region) = none :=
          clash_eq_none_iff.mpr fun prior hp => hearlier prior hp region (by simp)
        refine ⟨_, _, hscan, hclash, ih.mpr ⟨hscannable, ?_, rfl⟩, rfl⟩
        intro prior hp other hother
        rcases List.mem_append.mp hp with hbefore | hown
        · exact hearlier prior hbefore other (by simp [hother])
        · exact hfirst other hother prior hown

/-- **A scan succeeds exactly on a plan that is scannable**, and finds for each region what there is
to find. -/
theorem scanPlan_eq_ok_iff :
    scanPlan lines regions = .ok scans ↔
      Scannable lines regions ∧ scans = regions.map (scanOf lines) := by
  rw [scanPlan, scanAfter_eq_ok_iff]
  simp

/-! ### Regions in another order -/

theorem Scannable.perm {other : List Region} (h : Scannable lines regions)
    (hperm : other.Perm regions) : Scannable lines other where
  resolves region hmem := h.resolves region (hperm.mem_iff.mp hmem)
  separate := hperm.symm.pairwise h.separate Separate.symm

/-- The region is optional, and no line opens it. -/
def Region.Idle (lines : List String) (region : Region) : Prop :=
  region.required = false ∧ ¬ region.OccursIn lines

theorem scanOptional_of_idle {region : Region} (h : region.Idle lines) :
    scanOptional lines region = .ok [] := by
  simp [scanOptional, scanRegion_of_missing h.2, h.1]

theorem scanOf_of_idle {region : Region} (h : region.Idle lines) :
    scanOf lines region = ⟨region.name, []⟩ := by
  simp [scanOf, rangesOf_of_scanOptional (scanOptional_of_idle h)]

/-- Idle regions get in nobody's way. -/
theorem scannable_append_idle_iff {idle : List Region}
    (hidle : ∀ region ∈ idle, region.Idle lines) :
    Scannable lines (regions ++ idle) ↔ Scannable lines regions := by
  have hnone : ∀ region ∈ idle, rangesOf lines region = [] := fun region hmem =>
    rangesOf_of_scanOptional (scanOptional_of_idle (hidle region hmem))
  constructor
  · rintro ⟨hresolves, hseparate⟩
    exact ⟨fun region hmem => hresolves region (by simp [hmem]),
      (List.pairwise_append.mp hseparate).1⟩
  · rintro ⟨hresolves, hseparate⟩
    refine ⟨?_, List.pairwise_append.mpr ⟨hseparate, ?_, ?_⟩⟩
    · intro region hmem
      rcases List.mem_append.mp hmem with hr | hi
      · exact hresolves region hr
      · rw [hnone region hi]
        exact scanOptional_of_idle (hidle region hi)
    · refine List.pairwise_of_forall_mem_list ?_
      intro region hmem other _ range hrange
      simp [hnone region hmem] at hrange
    · intro region _ other hother range _ later hlater
      simp [hnone other hother] at hlater

/-! ### What comes of it

The edits of a plan change their places when its regions do, and idle regions ask for none.  Apart
from that there is only the last look, and of the regions that it asks about each plan has to have
those of the other.
-/

theorem zip_map_scanOf (lines : List String) (regions : List Region) :
    regions.zip (regions.map (scanOf lines)) =
      regions.map fun region => (region, scanOf lines region) :=
  List.map_prod_left_eq_zip.symm

/-- The edits that a plan asks for in a text. -/
def editsIn (lines : List String) (regions : List Region) : List Edit :=
  editsOf regions (regions.map (scanOf lines))

theorem editsIn_eq_flatMap (lines : List String) (regions : List Region) :
    editsIn lines regions =
      regions.flatMap fun region => (rangesOf lines region).map fun range =>
        ⟨range, region.action⟩ := by
  rw [editsIn, editsOf, zip_map_scanOf, List.flatMap_map]
  rfl

theorem editsIn_perm {other : List Region} (h : other.Perm regions) :
    (editsIn lines other).Perm (editsIn lines regions) := by
  rw [editsIn_eq_flatMap, editsIn_eq_flatMap]
  exact h.flatMap_right _

theorem editsIn_append_idle {idle : List Region} (hidle : ∀ region ∈ idle, region.Idle lines) :
    editsIn lines (regions ++ idle) = editsIn lines regions := by
  have hnone : (idle.flatMap fun region => (rangesOf lines region).map fun range =>
      (⟨range, region.action⟩ : Edit)) = [] := by
    rw [List.flatMap_eq_nil_iff]
    intro region hmem
    rw [rangesOf_of_scanOptional (scanOptional_of_idle (hidle region hmem)), List.map_nil]
  rw [editsIn_eq_flatMap, editsIn_eq_flatMap, List.flatMap_append, hnone, List.append_nil]

/-- The last look finds nothing exactly if it finds nothing for any region. -/
theorem residual_map_scanOf_eq_none_iff {output : List String} :
    residual output regions (regions.map (scanOf lines)) = none ↔
      ∀ region ∈ regions, (scanOf lines region).found = true → region.action = .delete →
        ¬ region.OccursIn output := by
  rw [residual_eq_none_iff, zip_map_scanOf]
  simp

/-- **A plan can take another's place** if it is scannable, asks for the same edits in any order,
and has no region to look for again that the other has not. -/
theorem revise_of_editsIn_perm {doc : Document} {other : List Region} {revision : Revision}
    (h : doc.revise regions = .ok revision) (hscannable : Scannable doc.lines other)
    (hedits : (editsIn doc.lines other).Perm (editsIn doc.lines regions))
    (hfound : ∀ region ∈ other, (scanOf doc.lines region).found = true → region ∈ regions) :
    doc.revise other = .ok { revision with scans := other.map (scanOf doc.lines) } := by
  obtain ⟨scans, hscan, hgone, rfl⟩ := revise_eq_ok_iff.mp h
  obtain ⟨-, rfl⟩ := scanPlan_eq_ok_iff.mp hscan
  have hcompatible : Edit.Compatible doc.lines.length (editsIn doc.lines regions) :=
    compatible_editsOf hscan
  have hlines : revisedLines doc.lines other (other.map (scanOf doc.lines))
      = revisedLines doc.lines regions (regions.map (scanOf doc.lines)) :=
    Edit.images_congr fun i line _ _ => hcompatible.imageAt_perm hedits i line
  have hstats : Edit.stats (editsIn doc.lines other) = Edit.stats (editsIn doc.lines regions) :=
    Edit.stats_perm hedits
  rw [residual_map_scanOf_eq_none_iff] at hgone
  have hgoneother : residual (revisedLines doc.lines other (other.map (scanOf doc.lines))) other
      (other.map (scanOf doc.lines)) = none := by
    rw [hlines, residual_map_scanOf_eq_none_iff]
    exact fun region hmem hin => hgone region (hfound region hmem hin) hin
  rw [revise_eq_ok (scanPlan_eq_ok_iff.mpr ⟨hscannable, rfl⟩) hgoneother, hlines]
  exact congrArg (fun stats => Except.ok (Revision.mk _ _ stats)) hstats

theorem scans_of_revise {doc : Document} {revision : Revision}
    (h : doc.revise regions = .ok revision) :
    Scannable doc.lines regions ∧ revision.scans = regions.map (scanOf doc.lines) :=
  scanPlan_eq_ok_iff.mp (revised_of_revise h).scanned

/--
**The order of a plan does not matter.**  Put the regions of a plan in another order and any number
of regions that are optional and missing between them.  The one plan can be carried out exactly if
the other can, and then the document that comes of it is the same, as many lines are removed and put
in, and each region has the same ranges in both; those that are new have none.
-/
theorem revise_reordered (doc : Document) {regions idle reordered : List Region}
    (hidle : ∀ region ∈ idle, region.required = false ∧ ¬ region.OccursIn doc.lines)
    (hperm : reordered.Perm (regions ++ idle)) :
    ((∃ revision, doc.revise regions = .ok revision) ↔
      ∃ revision, doc.revise reordered = .ok revision) ∧
    ∀ revision other, doc.revise regions = .ok revision → doc.revise reordered = .ok other →
      other.output = revision.output ∧ other.stats = revision.stats ∧
      (reordered.zip other.scans).Perm
        (regions.zip revision.scans ++ idle.map fun region => (region, ⟨region.name, []⟩)) := by
  have hedits : (editsIn doc.lines reordered).Perm (editsIn doc.lines regions) :=
    (editsIn_perm hperm).trans (by rw [editsIn_append_idle hidle])
  have hforth : ∀ revision, doc.revise regions = .ok revision →
      doc.revise reordered = .ok { revision with scans := reordered.map (scanOf doc.lines) } := by
    intro revision hrevise
    have hscannable := (scannable_append_idle_iff hidle).mpr (scans_of_revise hrevise).1
    refine revise_of_editsIn_perm hrevise (hscannable.perm hperm) hedits ?_
    intro region hmem hfound
    rcases List.mem_append.mp (hperm.mem_iff.mp hmem) with hr | hi
    · exact hr
    · rw [scanOf_of_idle (hidle region hi)] at hfound
      simp [RegionScan.found] at hfound
  have hback : ∀ other, doc.revise reordered = .ok other →
      doc.revise regions = .ok { other with scans := regions.map (scanOf doc.lines) } := by
    intro other hrevise
    have hscannable := (scans_of_revise hrevise).1.perm hperm.symm
    refine revise_of_editsIn_perm hrevise ((scannable_append_idle_iff hidle).mp hscannable)
      hedits.symm ?_
    exact fun region hmem _ => hperm.mem_iff.mpr (by simp [hmem])
  refine ⟨⟨?_, ?_⟩, ?_⟩
  · rintro ⟨revision, hrevise⟩
    exact ⟨_, hforth revision hrevise⟩
  · rintro ⟨other, hrevise⟩
    exact ⟨_, hback other hrevise⟩
  intro revision other hrevise hother
  have hscans := (scans_of_revise hrevise).2
  rw [hforth revision hrevise] at hother
  cases hother
  refine ⟨rfl, rfl, ?_⟩
  have hnew : (idle.map fun region => (region, scanOf doc.lines region))
      = idle.map fun region => (region, ⟨region.name, []⟩) :=
    List.map_congr_left fun region hmem => by rw [scanOf_of_idle (hidle region hmem)]
  rw [hscans, zip_map_scanOf, zip_map_scanOf, ← hnew, ← List.map_append]
  exact hperm.map _

/-- The method first, the uses last, and a call between them that is not there. -/
theorem revise_reordered_uses_and_method :
    let doc := Document.parse "// wire\nuse x\nkept\n  fn old (\n)\nrest\n"
    let idle := [mention "gone()" .delete]
    let reordered := [usesAndMethod[1], mention "gone()" .delete, usesAndMethod[0]]
    let uses : RegionScan := ⟨"uses", [⟨"uses", 0, 2⟩]⟩
    let method : RegionScan := ⟨"method", [⟨"method", 3, 5⟩]⟩
    let output : Document := ⟨["kept", "fn new()", "end", "rest"], .lf, true⟩
    let revision : Revision := ⟨[uses, method], output, ⟨4, 2⟩⟩
    let other : Revision := ⟨[method, ⟨"gone()", []⟩, uses], output, ⟨4, 2⟩⟩
    doc.revise usesAndMethod = .ok revision ∧ doc.revise reordered = .ok other ∧
      (∀ region ∈ idle, region.required = false ∧ ¬ region.OccursIn doc.lines) ∧
      reordered.Perm (usesAndMethod ++ idle) ∧
      other.output = revision.output ∧ other.stats = revision.stats ∧
      (reordered.zip other.scans).Perm (usesAndMethod.zip revision.scans ++
        idle.map fun region => (region, ⟨region.name, []⟩)) := by
  intro doc idle reordered uses method output revision other
  have hidle : ∀ region ∈ idle, region.required = false ∧ ¬ region.OccursIn doc.lines := by
    decide +kernel
  have hperm : reordered.Perm (usesAndMethod ++ idle) :=
    (List.reverse_perm [usesAndMethod[0], mention "gone()" .delete, usesAndMethod[1]]).trans
      (.cons _ (.swap _ _ _))
  have hrevise : doc.revise usesAndMethod = .ok revision := by
    rw [revise_eq_ok_iff]
    refine ⟨[uses, method], ?_, ?_, ?_⟩
    all_goals decide +kernel
  have hother : doc.revise reordered = .ok other := by
    rw [revise_eq_ok_iff]
    refine ⟨[method, ⟨"gone()", []⟩, uses], ?_, ?_, ?_⟩
    all_goals decide +kernel
  obtain ⟨-, hsame⟩ := revise_reordered doc hidle hperm
  exact ⟨hrevise, hother, hidle, hperm, hsame revision other hrevise hother⟩

end LineCut
