/-!
# Messages of authentication

What users are told when an operation of authentication fails, by the operation and the code of the
failure.
-/

namespace Scaffold.AuthMessages

/-- The messages of each operation by the code of the failure. -/
def known : List (String × List (String × String)) := [
  ("login", [
    ("auth/user-not-found", "No user found with this email"),
    ("auth/wrong-password", "Incorrect password"),
    ("auth/invalid-credential", "Invalid email or password"),
    ("auth/too-many-requests", "Too many attempts. Account temporarily locked"),
    ("auth/user-disabled", "This account has been disabled")]),
  ("signUp", [
    ("auth/email-already-in-use", "Email already registered"),
    ("auth/invalid-email", "Invalid email address"),
    ("auth/weak-password", "Password is too weak"),
    ("auth/operation-not-allowed", "Account creation is disabled")]),
  ("sendPasswordReset", [
    ("auth/user-not-found", "No user found with this email"),
    ("auth/invalid-email", "Invalid email address")]),
  ("changePassword", [
    ("auth/wrong-password", "Current password is incorrect"),
    ("auth/requires-recent-login", "Session expired. Please log in again"),
    ("auth/weak-password", "New password is too weak")]),
  ("updateProfile", [
    ("auth/requires-recent-login", "Session expired. Please log in again")])]

/-- The operations of authentication that the store offers. -/
def operations : List String := [
  "login", "signUp", "logout", "sendPasswordReset", "updateProfile", "changePassword",
  "initSession", "resendVerificationEmail"]

/-- The message for a failure that says nothing of itself. -/
def generic : String := "Authentication error"

/-- The message for a failure: the known one for its code, else its own, else the generic one. -/
def describe (operation : String) (code message : Option String) : String :=
  match code.bind fun c => ((known.lookup operation).getD []).lookup c with
  | some text => text
  | none => (message.filter (!·.isEmpty)).getD generic

end Scaffold.AuthMessages
