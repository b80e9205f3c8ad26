import Questionnaire.Document.Piece
import Questionnaire.Form.Audit

/-
  The style sheet of a page.

  Key definitions include:
    * `StylePart`
    * `StyleRule`
    * `StyleBlock`
    * `styleSheet`
    * `canonicalColor`
    * `stylePieces`

  The sheet is the same for all pages, save for the places of
  the two colours, which are always written as six small
  hexadecimal digits.
-/

------------------------------------------------------------
-- Style Sheets
------------------------------------------------------------

namespace Questionnaire.Document

/- A part of a rule: fixed text, or the place of a colour. -/
inductive StylePart where
  | text (text : String)
  | color (field : ColorField)

/- A rule: what it applies to, and what it says. -/
structure StyleRule where
  selector : String
  body : List StylePart

/- A rule of its own, or rules under a heading. -/
inductive StyleBlock where
  | rule (rule : StyleRule)
  | group (heading : String) (rules : List StyleRule)

/- The page and its head. -/
def headStyle : List StyleBlock := [
  .rule ⟨"*", [.text "margin:0;padding:0;box-sizing:border-box"]⟩,
  .rule ⟨"body", [
    .text "font-family:-apple-system,BlinkMacSystemFont,'Segoe UI',",
    .text "Roboto,Helvetica,Arial,sans-serif;",
    .text "background:linear-gradient(135deg,#fff8f0 0%,#fff 50%,",
    .text "#fffbf0 100%);min-height:100vh;color:#2d2d2d"]⟩,
  .rule ⟨".wrapper", [
    .text "max-width:800px;margin:0 auto;padding:30px 40px;",
    .text "min-height:100vh;display:flex;flex-direction:column;",
    .text "justify-content:flex-start"]⟩,
  .rule ⟨".header", [.text "text-align:center;margin-bottom:30px"]⟩,
  .rule ⟨".header img", [.text "max-height:60px;margin-bottom:12px"]⟩,
  .rule ⟨".header h1", [
    .text "font-size:22px;font-weight:700;color:#2d2d2d;",
    .text "margin-bottom:4px"]⟩,
  .rule ⟨".header p", [.text "font-size:14px;color:#666"]⟩,
  .rule ⟨".benefits", [
    .text "list-style:none;margin-top:12px;display:flex;",
    .text "flex-wrap:wrap;justify-content:center;gap:8px"]⟩,
  .rule ⟨".benefits li", [
    .text "font-size:13px;padding:6px 12px;border-radius:99px;",
    .text "border:1px solid ",
    .color .primary,
    .text ";color:",
    .color .primary,
    .text ";"]⟩,
  .rule ⟨".progress-wrap", [.text "margin-bottom:28px"]⟩,
  .rule ⟨".progress-bar-bg", [
    .text "width:100%;height:8px;background:#f0f0f0;",
    .text "border-radius:99px;overflow:hidden"]⟩,
  .rule ⟨".progress-bar-fill", [
    .text "height:100%;background:linear-gradient(90deg,",
    .color .primary,
    .text ",",
    .color .secondary,
    .text ");border-radius:99px;transition:width .4s ease;width:0%"]⟩,
  .rule ⟨".progress-text", [
    .text "text-align:center;font-size:13px;color:#999;margin-top:6px"]⟩]

/- The steps and what they show. -/
def stepStyle : List StyleBlock := [
  .rule ⟨".step", [.text "display:none;animation:fadeIn .5s ease"]⟩,
  .rule ⟨".step.active", [.text "display:block"]⟩,
  .group "@keyframes fadeIn" [
    ⟨"from", [.text "opacity:0;transform:translateY(16px)"]⟩,
    ⟨"to", [.text "opacity:1;transform:translateY(0)"]⟩],
  .rule ⟨".step-icon", [
    .text "width:80px;height:80px;border-radius:50%;",
    .text "background:linear-gradient(135deg,",
    .color .primary,
    .text ",",
    .color .secondary,
    .text ");display:flex;align-items:center;justify-content:center;",
    .text "margin:0 auto 20px"]⟩,
  .rule ⟨".step-icon svg", [
    .text "width:40px;height:40px;stroke:#fff;stroke-width:2;",
    .text "fill:none"]⟩,
  .rule ⟨".step h2", [
    .text "font-size:24px;font-weight:700;text-align:center;",
    .text "margin-bottom:8px;color:#2d2d2d"]⟩,
  .rule ⟨".step .subtitle", [
    .text "font-size:16px;color:#666;text-align:center;",
    .text "margin-bottom:24px"]⟩]

/- The fields and the options. -/
def fieldStyle : List StyleBlock := [
  .rule ⟨".input-group", [.text "margin-bottom:16px"]⟩,
  .rule ⟨".input-group label", [
    .text "display:block;font-size:15px;font-weight:600;",
    .text "margin-bottom:6px;color:#2d2d2d"]⟩,
  .rule ⟨".input-group input,.input-group textarea", [
    .text "width:100%;padding:16px;border:2px solid #e0e0e0;",
    .text "border-radius:12px;font-size:16px;",
    .text "transition:border-color .2s;outline:none;background:#fff;",
    .text "font-family:inherit"]⟩,
  .rule ⟨".input-group input:focus,.input-group textarea:focus", [
    .text "border-color:",
    .color .primary,
    .text ";"]⟩,
  .rule ⟨".input-group .error", [.text "border-color:#d32f2f"]⟩,
  .rule ⟨".error-msg", [
    .text "color:#d32f2f;font-size:13px;margin-top:4px;display:none"]⟩,
  .rule ⟨".error-msg.show", [.text "display:block"]⟩,
  .rule ⟨".radio-group", [
    .text "display:flex;flex-direction:column;gap:10px"]⟩,
  .rule ⟨".radio-group--cards", [
    .text "display:grid;grid-template-columns:repeat(auto-fit,",
    .text "minmax(200px,1fr))"]⟩,
  .rule ⟨".radio-group.locked .radio-card", [.text "cursor:default"]⟩,
  .rule ⟨".radio-card", [
    .text "display:flex;align-items:center;gap:12px;",
    .text "padding:14px 16px;border:2px solid #e0e0e0;",
    .text "border-radius:12px;cursor:pointer;transition:all .2s;",
    .text "background:#fff"]⟩,
  .rule ⟨".radio-card:hover", [
    .text "border-color:",
    .color .primary,
    .text ";background:#fffaf5"]⟩,
  .rule ⟨".radio-card.selected", [
    .text "border-color:",
    .color .primary,
    .text ";background:linear-gradient(135deg,",
    .color .primary,
    .text "14,",
    .color .secondary,
    .text "14)"]⟩,
  .rule ⟨".radio-card input[type=\"radio\"]", [.text "display:none"]⟩,
  .rule ⟨".radio-label", [.text "font-size:15px;font-weight:500;flex:1"]⟩,
  .rule ⟨".empty-options", [
    .text "font-size:14px;color:#999;text-align:center"]⟩]

/- The buttons and the review. -/
def buttonStyle : List StyleBlock := [
  .rule ⟨".btn-primary", [
    .text "width:100%;padding:18px;background:linear-gradient(90deg,",
    .color .primary,
    .text ",",
    .color .secondary,
    .text ");color:#fff;border:none;border-radius:12px;",
    .text "font-size:18px;font-weight:700;cursor:pointer;",
    .text "transition:all .2s;margin-top:20px;letter-spacing:.3px"]⟩,
  .rule ⟨".btn-primary:hover", [
    .text "opacity:.92;transform:translateY(-1px)"]⟩,
  .rule ⟨".btn-primary:disabled", [
    .text "opacity:.5;cursor:not-allowed;transform:none"]⟩,
  .rule ⟨".btn-back", [
    .text "background:none;border:none;color:#999;font-size:14px;",
    .text "cursor:pointer;padding:10px;display:flex;",
    .text "align-items:center;gap:6px;margin-bottom:10px"]⟩,
  .rule ⟨".btn-back svg", [
    .text "width:16px;height:16px;stroke:currentColor;stroke-width:2;",
    .text "fill:none"]⟩,
  .rule ⟨".review-cards", [
    .text "display:flex;flex-direction:column;gap:10px"]⟩,
  .rule ⟨".review-card", [
    .text "display:flex;align-items:center;",
    .text "justify-content:space-between;padding:14px 16px;",
    .text "border:2px solid #e0e0e0;border-radius:12px;",
    .text "background:#fff"]⟩,
  .rule ⟨".review-card-info", [.text "flex:1"]⟩,
  .rule ⟨".review-card-label", [
    .text "font-size:12px;color:#999;margin-bottom:2px;",
    .text "text-transform:uppercase;letter-spacing:.5px"]⟩,
  .rule ⟨".review-card-value", [
    .text "font-size:16px;font-weight:600;color:#2d2d2d;",
    .text "word-break:break-word"]⟩,
  .rule ⟨".review-edit", [
    .text "background:none;border:none;color:",
    .color .primary,
    .text ";font-size:13px;font-weight:600;cursor:pointer;",
    .text "padding:6px 10px;border-radius:8px"]⟩,
  .rule ⟨".commit-btns", [
    .text "display:flex;flex-direction:column;gap:14px;",
    .text "margin-top:24px"]⟩,
  .rule ⟨".btn-commit-yes", [
    .text "padding:20px;background:linear-gradient(135deg,#4CAF50,",
    .text "#45a049);color:#fff;border:none;border-radius:14px;",
    .text "font-size:18px;font-weight:700;cursor:pointer;",
    .text "display:flex;align-items:center;justify-content:center;",
    .text "gap:10px;transition:all .2s"]⟩,
  .rule ⟨".btn-commit-no", [
    .text "padding:18px;background:#fff;color:#d32f2f;",
    .text "border:2px solid #d32f2f;border-radius:14px;",
    .text "font-size:16px;font-weight:600;cursor:pointer;",
    .text "display:flex;align-items:center;justify-content:center;",
    .text "gap:10px;transition:all .2s"]⟩,
  .rule ⟨".btn-commit-yes:hover,.btn-commit-no:hover", [
    .text "opacity:.92;transform:translateY(-1px)"]⟩]

/- The end of a session, and narrow screens. -/
def endStyle : List StyleBlock := [
  .rule ⟨".success-overlay", [
    .text "position:fixed;inset:0;background:rgba(255,255,255,.98);",
    .text "display:none;flex-direction:column;align-items:center;",
    .text "justify-content:center;z-index:9999"]⟩,
  .rule ⟨".success-overlay.show", [.text "display:flex"]⟩,
  .rule ⟨".success-icon", [
    .text "width:100px;height:100px;border-radius:50%;",
    .text "background:linear-gradient(135deg,",
    .color .primary,
    .text ",",
    .color .secondary,
    .text ");display:flex;align-items:center;justify-content:center;",
    .text "animation:scaleIn .7s ease"]⟩,
  .rule ⟨".success-icon svg", [
    .text "width:50px;height:50px;stroke:#fff;stroke-width:3;",
    .text "fill:none"]⟩,
  .group "@keyframes scaleIn" [
    ⟨"0%", [.text "transform:scale(0)"]⟩,
    ⟨"60%", [.text "transform:scale(1.1)"]⟩,
    ⟨"100%", [.text "transform:scale(1)"]⟩],
  .rule ⟨".success-title", [
    .text "font-size:32px;font-weight:700;color:#2d2d2d;",
    .text "margin-top:24px;animation:slideUp .6s ease .3s both"]⟩,
  .rule ⟨".success-sub", [
    .text "font-size:16px;color:#666;margin-top:8px;",
    .text "animation:slideUp .6s ease .5s both"]⟩,
  .group "@keyframes slideUp" [
    ⟨"from", [.text "opacity:0;transform:translateY(20px)"]⟩,
    ⟨"to", [.text "opacity:1;transform:translateY(0)"]⟩],
  .group "@media(max-width:760px)" [
    ⟨".wrapper", [.text "padding:20px"]⟩,
    ⟨".step-icon", [.text "width:60px;height:60px"]⟩,
    ⟨".step-icon svg", [.text "width:28px;height:28px"]⟩,
    ⟨".step h2", [.text "font-size:20px"]⟩,
    ⟨".btn-primary", [.text "font-size:16px;padding:16px"]⟩]]

/- The style sheet of every page. -/
def styleSheet : List StyleBlock :=
  headStyle
    ++ stepStyle
    ++ fieldStyle
    ++ buttonStyle
    ++ endStyle

end Questionnaire.Document

------------------------------------------------------------
-- Colours
------------------------------------------------------------

namespace Questionnaire.Document

/-
  A colour as six small hexadecimal digits, so that digits for
  its opacity can follow; each of three digits is doubled.  They
  are counted by their bytes: a digit has one.
-/
def canonicalColor
    (color : String) : String :=
  let digits := color.toList.dropWhile (fun c => c == '#')
  let full :=
    if (String.ofList digits).utf8ByteSize == 3 then
      digits.flatMap (fun c => [c, c])
    else
      digits
  String.ofList ('#' :: full.map Char.toLower)

/- The two colours that a page is written with. -/
structure Colors where
  primary : String
  secondary : String
  deriving DecidableEq, Repr

/- The colours of a company. -/
def Colors.ofCompany
    (company : Company) : Colors :=
  ⟨canonicalColor company.primary, canonicalColor company.secondary⟩

/- One of the two colours. -/
def Colors.get
    (colors : Colors) : ColorField → String
  | .primary => colors.primary
  | .secondary => colors.secondary

end Questionnaire.Document

------------------------------------------------------------
-- Pieces of the Style Sheet
------------------------------------------------------------

namespace Questionnaire.Document

/- A part of a rule. -/
def StylePart.piece
    (colors : Colors) : StylePart → Piece
  | .text fixed => .markup fixed
  | .color field => .shown (colors.get field)

/- A rule on a line of its own. -/
def StyleRule.pieces
    (colors : Colors)
    (rule : StyleRule) : List Piece :=
  .markup (rule.selector ++ "\x7b") :: rule.body.map (·.piece colors)
    ++ [.markup "\x7d\n"]

/- A rule, or a group with its rules. -/
def StyleBlock.pieces
    (colors : Colors) : StyleBlock → List Piece
  | .rule one => one.pieces colors
  | .group heading rules =>
      .markup (heading ++ "\x7b\n") :: rules.flatMap (·.pieces colors)
        ++ [.markup "\x7d\n"]

/- The element with the style sheet. -/
def stylePieces
    (colors : Colors) : List Piece :=
  .markup "<style>\n" :: styleSheet.flatMap (·.pieces colors)
    ++ [.markup "</style>\n"]

end Questionnaire.Document
