import BoxOffice.Http.Post
import BoxOffice.Http.Target
import BoxOffice.Json.Printer
import BoxOffice.Mail

/-!
# Mail relays

A relay takes mails as posts in JSON and sends them on. A mail counts as taken unless the
exchange breaks off before a status or the status tells failure.
-/
namespace BoxOffice.Relay

/-- The kind of event that a confirmation reports. -/
def purchased : String := "tickets.purchased"

/-- The post for a mail. -/
def postFor (path : String) (mail : ConfirmationMail) : Http.Post where
  target := Http.Target.ofAddress path
  authorization := none
  contentType := "application/json"
  eventType := some purchased
  body := mail.json.write

/-- Whether a relay of some conduct takes a mail. -/
def accepts : Http.Conduct → Bool
  | .answers status _ | .breaksOff status => !Http.isFailure status
  | .hangsUp | .refuses | .hangs => false

/-- Sends a mail: the post that the relay receives, and whether it takes the mail. -/
def send (path : String) (conduct : Http.Conduct) (mail : ConfirmationMail) :
    Option Http.Post × Bool :=
  (if conduct.receives then some (postFor path mail) else none, accepts conduct)

end BoxOffice.Relay
