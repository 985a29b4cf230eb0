import DefectGate.Analysis
import DefectGate.Proofs.Text.Quotation

/-! # Quoted parts of the banner and of messages

The banner quotes the target's arguments, and two messages quote a marker or a line of the
analyzer's output. Whatever these hold, they can be told from the text that quotes them, and the
line breaks of that text are those of its unquoted parts, which are the analyzer's name and the
target's path.
-/
namespace DefectGate
open Host (Path)
open Text (breaks breaks_append)
open Text.Quoted

theorem toString_eq_self (s : String) : toString s = s := rfl

theorem append_quote_injective (opening : String) :
    Function.Injective fun text => opening ++ quote text := by
  intro s t h
  exact quote_injective ((String.append_right_inj opening).mp h)

theorem breaks_append_quote (opening text : String) :
    breaks (opening ++ quote text) = breaks opening := by
  rw [breaks_append, breaks_quote, List.append_nil]

namespace Analysis

/-- The banner up to the list of arguments. -/
def announcement (name : String) (target : Path) : String :=
  s!"Running memory analysis with {name} for target: {target.display} with argument list: "

theorem banner_eq (a : Analysis) :
    a.banner = announcement a.shortName a.target ++ quoteList a.arguments := by
  have hjoin : " with argument list: " = " " ++ "with argument list: " := by decide
  unfold banner announcement
  simp only [toString_eq_self, hjoin, String.append_assoc]

theorem breaks_announcement (name : String) (target : Path) :
    breaks (announcement name target) = breaks name ++ breaks target.display := by
  have hname : breaks "Running memory analysis with " = [] := by decide
  have htarget : breaks " for target: " = [] := by decide
  have harguments : breaks " with argument list: " = [] := by decide
  unfold announcement
  simp only [toString_eq_self, breaks_append, hname, htarget, harguments, List.nil_append,
    List.append_nil]

theorem breaks_banner (a : Analysis) :
    breaks a.banner = breaks a.shortName ++ breaks a.target.display := by
  rw [banner_eq, breaks_append, breaks_announcement, breaks_quoteList, List.append_nil]

theorem banner_inj {a b : Analysis} (hname : a.shortName = b.shortName)
    (htarget : a.target = b.target) : a.banner = b.banner ↔ a.arguments = b.arguments := by
  rw [banner_eq, banner_eq, hname, htarget, String.append_right_inj, quoteList_injective.eq_iff]

end Analysis

namespace Failure

theorem message_countUnreadable (line : String) :
    (countUnreadable line).message = "could not read a defect count from line " ++ quote line := by
  unfold message
  simp only [toString_eq_self]

theorem message_summaryMissing (analyzer marker : String) :
    (summaryMissing analyzer marker).message =
      s!"no line in the {analyzer} transcript contains " ++ quote marker := by
  unfold message
  simp only [toString_eq_self]

theorem breaks_message_countUnreadable (line : String) :
    breaks (countUnreadable line).message = [] := by
  rw [message_countUnreadable, breaks_append_quote]
  decide

theorem breaks_message_summaryMissing (analyzer marker : String) :
    breaks (summaryMissing analyzer marker).message = breaks analyzer := by
  have hopening : breaks "no line in the " = [] := by decide
  have hclosing : breaks " transcript contains " = [] := by decide
  rw [message_summaryMissing, breaks_append_quote]
  simp only [toString_eq_self, breaks_append, hopening, hclosing, List.nil_append, List.append_nil]

theorem message_countUnreadable_injective :
    Function.Injective fun line => (countUnreadable line).message := by
  simp only [message_countUnreadable]
  exact append_quote_injective _

theorem message_summaryMissing_injective (analyzer : String) :
    Function.Injective fun marker => (summaryMissing analyzer marker).message := by
  simp only [message_summaryMissing]
  exact append_quote_injective _

end Failure

/-- The arguments are determined by the banner of a known analyzer and target, the offending line by
its message and the missing marker by the message that names a known analyzer. The list of arguments
breaks no line, nor does the offending line or the marker in its message. -/
theorem quoted_parts_determined :
    (∀ a : Analysis,
      a.banner = Analysis.announcement a.shortName a.target ++ quoteList a.arguments ∧
        breaks (quoteList a.arguments) = [] ∧
        breaks a.banner = breaks a.shortName ++ breaks a.target.display) ∧
    (∀ a b : Analysis, a.shortName = b.shortName → a.target = b.target →
      (a.banner = b.banner ↔ a.arguments = b.arguments)) ∧
    (∀ line, breaks (Failure.countUnreadable line).message = []) ∧
    (Function.Injective fun line => (Failure.countUnreadable line).message) ∧
    (∀ analyzer marker,
      breaks (Failure.summaryMissing analyzer marker).message = breaks analyzer) ∧
    ∀ analyzer, Function.Injective fun marker => (Failure.summaryMissing analyzer marker).message := by
  exact ⟨fun a => ⟨a.banner_eq, breaks_quoteList _, a.breaks_banner⟩,
    fun a b => Analysis.banner_inj,
    Failure.breaks_message_countUnreadable, Failure.message_countUnreadable_injective,
    Failure.breaks_message_summaryMissing, Failure.message_summaryMissing_injective⟩

/-- One argument that holds the punctuation between two, and the analyzer in its directory. -/
theorem quoted_parts_determined_punctuated :
    let one : Analysis := ⟨"demo", [], .ofString "app", ["a\", \"b"], none, .ofString "logs", none⟩
    let two : Analysis :=
      ⟨"/opt/demo", ["-q"], .ofString "app", ["a", "b"], none, .ofString "logs", none⟩
    one.shortName = two.shortName ∧ one.target = two.target ∧ one.banner ≠ two.banner := by
  intro one two
  obtain ⟨-, hbanner, -⟩ := quoted_parts_determined
  have hname : one.shortName = two.shortName := by decide
  refine ⟨hname, rfl, fun h => ?_⟩
  have harguments : one.arguments = two.arguments := (hbanner one two hname rfl).mp h
  exact absurd harguments (by decide)

end DefectGate
