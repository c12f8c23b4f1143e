import ChatBot.Text.Capital

/-!
People in a chat.

* `User.name`: the display name if there is one, else the login, else the id;
* `User.capitalizedName`: that name as replies address it.
-/

namespace ChatBot

/-- A person or program that writes messages. The platform knows the user by an `id`, and the
display name is what others see. -/
structure User where
  id : String
  login : Option String := none
  displayName : Option String := none
  isBot : Bool := false
  deriving DecidableEq, Repr

namespace User

/-- The best name there is. -/
def name (user : User) : String := (user.displayName.orElse fun _ => user.login).getD user.id

/-- The name as replies address it. -/
def capitalizedName (user : User) : String := user.name.capitalized

end User

end ChatBot
