/-! # The style sheet

The rules that every rendered message carries in its head, and the stricter ones
for narrow screens.
-/

namespace BlockMail.Render

/-- What is declared for the elements that a selector chooses. -/
structure StyleRule where
  selector : String
  declarations : List String

/-- A rule on a line of its own. -/
def StyleRule.print (indent : String) (r : StyleRule) : String :=
  indent ++ r.selector ++ " \x7b"
    ++ r.declarations.foldr (fun d rest => " " ++ d ++ ";" ++ rest) " \x7d\n"

/-- Rules for every screen. -/
def styleRules : List StyleRule :=
  [ ⟨"body, table, td, p, a, li, blockquote",
      ["-webkit-text-size-adjust: 100%", "-ms-text-size-adjust: 100%"]⟩,
    ⟨"table, td", ["mso-table-lspace: 0pt", "mso-table-rspace: 0pt"]⟩,
    ⟨"img",
      ["-ms-interpolation-mode: bicubic", "border: 0", "height: auto", "line-height: 100%",
        "outline: none", "text-decoration: none"]⟩,
    ⟨"body",
      [
        "font-family: -apple-system, BlinkMacSystemFont, 'Segoe UI', Roboto, "
          ++ "'Helvetica Neue', Arial, sans-serif",
        "line-height: 1.6", "color: #333333", "margin: 0", "padding: 0",
        "background-color: #f8fafc"]⟩,
    ⟨".email-container",
      ["max-width: 700px", "margin: 20px auto", "background: #ffffff", "border-radius: 12px",
        "box-shadow: 0 4px 6px -1px rgba(0, 0, 0, 0.1)", "overflow: hidden"]⟩,
    ⟨".email-header",
      ["background-color: #475569", "color: white", "padding: 12px 16px", "display: flex",
        "align-items: center", "gap: 8px"]⟩,
    ⟨".email-header-dots", ["display: flex", "gap: 4px"]⟩,
    ⟨".email-header-dot", ["width: 12px", "height: 12px", "border-radius: 50%"]⟩,
    ⟨".dot-red", ["background-color: #f87171"]⟩,
    ⟨".dot-yellow", ["background-color: #fbbf24"]⟩,
    ⟨".dot-green", ["background-color: #34d399"]⟩,
    ⟨".email-body", ["padding: 24px"]⟩,
    ⟨".text-block", ["margin-bottom: 24px"]⟩,
    ⟨".font-arial", ["font-family: Arial, sans-serif"]⟩,
    ⟨".font-helvetica", ["font-family: 'Helvetica Neue', Helvetica, Arial, sans-serif"]⟩,
    ⟨".font-georgia", ["font-family: Georgia, serif"]⟩,
    ⟨".font-times", ["font-family: 'Times New Roman', Times, serif"]⟩,
    ⟨".font-courier", ["font-family: 'Courier New', Courier, monospace"]⟩,
    ⟨".bullet-list", ["list-style-type: disc", "margin-left: 24px", "padding-left: 0"]⟩,
    ⟨".bullet-list li", ["margin-bottom: 4px"]⟩,
    ⟨".cta-button",
      ["display: inline-block", "padding: 12px 24px", "text-decoration: none",
        "border-radius: 6px", "font-weight: 500", "text-align: center", "font-size: 16px",
        "line-height: 1.5", "border: 0"]⟩,
    ⟨".cta-primary", ["background-color: #2563eb !important", "color: #ffffff !important"]⟩,
    ⟨".cta-secondary", ["background-color: #e5e7eb", "color: #374151"]⟩,
    ⟨".cta-text",
      ["background: none", "color: #2563eb", "text-decoration: underline", "padding: 0"]⟩,
    ⟨".session-details",
      ["background-color: #f1f5f9", "padding: 20px", "border-radius: 8px", "margin: 24px 0",
        "border: 1px solid #e2e8f0"]⟩,
    ⟨".session-details h3",
      ["margin: 0 0 12px 0", "color: #0f172a", "font-size: 18px", "font-weight: 600"]⟩,
    ⟨".session-detail-item", ["display: flex", "margin-bottom: 8px", "align-items: flex-start"]⟩,
    ⟨".session-detail-label",
      ["font-weight: 500", "color: #475569", "width: 80px", "flex-shrink: 0",
        "font-size: 14px"]⟩,
    ⟨".session-detail-value", ["color: #334155", "font-size: 14px"]⟩,
    ⟨".image-block", ["text-align: center", "margin: 24px 0"]⟩,
    ⟨".image-block img",
      ["width: 100%", "height: auto", "display: block", "margin: 0 auto",
        "border-radius: 8px"]⟩,
    ⟨".image-caption",
      ["margin-top: 8px", "font-size: 14px", "color: #6b7280", "font-style: italic"]⟩,
    ⟨".email-header-block",
      ["text-align: center", "padding: 24px 0 32px 0", "border-radius: 8px"]⟩,
    ⟨".header-logo", ["margin-bottom: 16px", "font-size: 32px"]⟩,
    ⟨".header-tagline", ["font-size: 18px", "font-weight: 500", "margin: 0"]⟩,
    ⟨".email-footer",
      ["border-top: 1px solid #e5e7eb", "padding-top: 24px", "margin-top: 32px",
        "text-align: center", "font-size: 14px", "color: #6b7280"]⟩,
    ⟨".footer-logo",
      ["width: 64px", "height: 64px", "background: linear-gradient(135deg, #3b82f6, #8b5cf6)",
        "border-radius: 8px", "margin: 0 auto 12px auto", "color: white", "font-weight: bold",
        "font-size: 24px", "line-height: 64px"]⟩,
    ⟨".footer-business-name",
      ["font-weight: 600", "color: #374151", "margin-bottom: 8px", "font-size: 16px"]⟩,
    ⟨".footer-contact", ["margin-bottom: 4px"]⟩,
    ⟨".footer-custom-text", ["margin-top: 12px", "font-style: italic", "color: #9ca3af"]⟩,
    ⟨".divider-line", ["border: none", "border-top: 1px solid #e5e7eb", "margin: 24px 0"]⟩,
    ⟨".divider-space", ["margin: 0", "padding: 0"]⟩,
    ⟨".social-links", ["text-align: center", "padding: 16px 0"]⟩,
    ⟨".social-links a",
      ["color: #2563eb", "text-decoration: underline", "margin: 0 12px", "font-weight: 500"]⟩ ]

/-- Rules for narrow screens. -/
def narrowStyleRules : List StyleRule :=
  [ ⟨".email-container", ["margin: 0 !important", "border-radius: 0 !important"]⟩,
    ⟨".email-body", ["padding: 16px !important"]⟩,
    ⟨".cta-button",
      ["display: block !important", "width: 100% !important", "margin: 12px 0 !important",
        "box-sizing: border-box"]⟩,
    ⟨".session-detail-item", ["flex-direction: column !important"]⟩,
    ⟨".session-detail-label", ["width: auto !important", "margin-bottom: 2px"]⟩ ]

/-- The rules one after the other. -/
def printRules (indent : String) (rules : List StyleRule) : String :=
  rules.foldr (fun r rest => r.print indent ++ rest) ""

/-- The text of the style sheet. -/
def stylesheet : String :=
  "\n" ++ printRules "  " styleRules
    ++ "  @media only screen and (max-width: 600px) \x7b\n"
    ++ printRules "    " narrowStyleRules
    ++ "  \x7d\n"

end BlockMail.Render
