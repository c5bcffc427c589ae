import Scaffold.Template.Basic

/-!
# The database module

The module that opens the database, and authentication if it is in use.
-/

namespace Scaffold.DatabaseModule

open Template

/-- The text of the module. -/
def template : Template := sequence [
  lines [
    "import \x7b initializeApp \x7d from 'firebase/app';",
    "import \x7b getFirestore \x7d from 'firebase/firestore';"],
  when (.path ["auth_enabled"]) [
    lines ["import \x7b getAuth \x7d from 'firebase/auth';"]],
  lines [
    "",
    "const firebaseConfig = \x7b",
    "  apiKey: import.meta.env.VITE_FIREBASE_API_KEY,",
    "  authDomain: import.meta.env.VITE_FIREBASE_AUTH_DOMAIN,",
    "  projectId: import.meta.env.VITE_FIREBASE_PROJECT_ID,",
    "  storageBucket: import.meta.env.VITE_FIREBASE_STORAGE_BUCKET,",
    "  messagingSenderId: import.meta.env.VITE_FIREBASE_MESSAGING_SENDER_ID,",
    "  appId: import.meta.env.VITE_FIREBASE_APP_ID,",
    "\x7d;",
    "",
    "export const app = initializeApp(firebaseConfig);",
    "export const db = getFirestore(app);"],
  when (.path ["auth_enabled"]) [
    lines ["export const auth = getAuth(app);"]]]

end Scaffold.DatabaseModule
