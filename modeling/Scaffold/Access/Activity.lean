import Scaffold.Template.Basic

/-!
# The activity module

The module that records activity and follows what was recorded.
-/

namespace Scaffold.ActivityModule

open Template

/-- Imports, and who acts. -/
def actors : Template := sequence [
  lines [
    "import \x7b",
    "  addDoc,",
    "  collection,",
    "  limit,",
    "  onSnapshot,",
    "  orderBy,",
    "  query,",
    "  Timestamp,",
    "  where,",
    "\x7d from 'firebase/firestore';",
    "import \x7b db \x7d from '@/firebase';",
    ""],
  row [text "export const ACTIVITY_COLLECTION = ", script ["activity_collection"], text ";"],
  lines [
    "",
    "let unsubscribeActivity = null;",
    "",
    "function actorOf(user) \x7b",
    "  if (!user) return \x7b system: true \x7d;",
    "  return \x7b",
    "    userId: user.uid || null,",
    "    userEmail: user.email || null,",
    "    userName: user.displayName || user.email || null,",
    "  \x7d;",
    "\x7d",
    ""]]

/-- Recording an activity. -/
def recording : Template := sequence [
  lines [
    "export async function logActivity(activity, user = null) \x7b",
    "  try \x7b",
    "    const ref = await addDoc(collection(db, ACTIVITY_COLLECTION), \x7b",
    "      ...activity,",
    "      ...actorOf(user),",
    "      timestamp: Timestamp.now(),",
    "    \x7d);",
    "    return \x7b success: true, activityId: ref.id \x7d;",
    "  \x7d catch (error) \x7b",
    "    console.error('[activity] log failed:', error);",
    "    return \x7b success: false, error: error.message \x7d;",
    "  \x7d",
    "\x7d",
    ""]]

/-- Following the recorded activity. -/
def listening : Template := sequence [
  lines [
    "export function initRecentActivityListener(onChange, options = \x7b\x7d) \x7b",
    "  cleanupActivityListener();"],
  row [text "  const \x7b max = ", value ["recent_limit"],
    text ", userId = null, types = null, onError = null \x7d = options;"],
  lines [
    "  const constraints = [orderBy('timestamp', 'desc'), limit(max)];",
    "  if (userId) constraints.push(where('userId', '==', userId));",
    "  const typeList = types ? (Array.isArray(types) ? types : [types]) : [];",
    "  if (typeList.length > 0) constraints.push(where('type', 'in', typeList));",
    "",
    "  unsubscribeActivity = onSnapshot(",
    "    query(collection(db, ACTIVITY_COLLECTION), ...constraints),",
    "    (snapshot) => \x7b",
    "      onChange(",
    "        snapshot.docs.map((entry) => \x7b",
    "          const data = entry.data();",
    "          return \x7b id: entry.id, ...data, timestamp: data.timestamp ? data.timestamp.toDate() : null \x7d;",
    "        \x7d),",
    "      );",
    "    \x7d,",
    "    (error) => \x7b",
    "      console.error('[activity] listener failed:', error);",
    "      if (onError) onError(error);",
    "    \x7d,",
    "  );",
    "  return cleanupActivityListener;",
    "\x7d",
    "",
    "export function cleanupActivityListener() \x7b",
    "  if (unsubscribeActivity) \x7b",
    "    unsubscribeActivity();",
    "    unsubscribeActivity = null;",
    "  \x7d",
    "\x7d"]]

/-- The text of the module. -/
def template : Template := sequence [actors, recording, listening]

end Scaffold.ActivityModule
