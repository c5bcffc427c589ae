import Scaffold.Template.Basic

/-!
# The store module

The module that binds all collections into one store, with the session of the user and
authentication if it is in use.
-/

namespace Scaffold.StoreModule

open Template

/-! ## The head -/

/-- What the module imports. -/
def imports : Template := sequence [
  lines [
    "import \x7b ref, computed \x7d from 'vue';",
    "import \x7b defineStore \x7d from 'pinia';"],
  when (.path ["auth_enabled"]) [
    lines [
      "import \x7b",
      "  createUserWithEmailAndPassword,",
      "  EmailAuthProvider,",
      "  onAuthStateChanged,",
      "  reauthenticateWithCredential,",
      "  sendEmailVerification,",
      "  sendPasswordResetEmail,",
      "  signInWithEmailAndPassword,",
      "  signOut,",
      "  updatePassword,",
      "  updateProfile as updateAuthProfile,",
      "\x7d from 'firebase/auth';",
      "import \x7b auth \x7d from '@/firebase';"]],
  row [text "import \x7b ", when (.path ["auth_enabled"]) [text "ok, "], text "ErrorKind",
    when (.path ["roles"]) [text ", ROLES"], text " \x7d from './collectionSupport.js';"],
  when (.path ["activity_logging"]) [
    lines ["import \x7b initRecentActivityListener, cleanupActivityListener \x7d from './activityLogger.js';"]],
  forEach "binding" (.path ["bindings"]) [
    row [text "import \x7b ", value ["binding", "names", "actions_factory"], text " \x7d from '",
      value ["binding", "names", "actions_import"], text "';"]],
  lines [""]]

/-- Empty pages and searches, and the tracking of what is being loaded. -/
def helpers : Template := sequence [
  lines [
    "const emptyPage = () => (\x7b",
    "  items: [],",
    "  cursor: null,",
    "  hasMore: false,",
    "  filters: \x7b\x7d,",
    "  orderBy: null,",
    "  pageSize: null,",
    "\x7d);",
    "",
    "const emptySearch = () => (\x7b term: '', field: null, results: [], isActive: false \x7d);",
    "",
    "function tracker(loading, error) \x7b",
    "  return async (operation) => \x7b",
    "    loading.value = true;",
    "    error.value = null;",
    "    try \x7b",
    "      const result = await operation();",
    "      if (!result.ok) error.value = result.error;",
    "      return result;",
    "    \x7d catch (cause) \x7b",
    "      error.value = \x7b kind: ErrorKind.STORE, code: null, message: cause.message || String(cause), cause \x7d;",
    "      return \x7b ok: false, data: null, error: error.value \x7d;",
    "    \x7d finally \x7b",
    "      loading.value = false;",
    "    \x7d",
    "  \x7d;",
    "\x7d"]]

/-! ## Authentication -/

/-- The messages of failures, and the user of a session. -/
def authHelpers : Template := sequence [
  lines [""],
  row [text "const AUTH_MESSAGES = ", script ["auth_messages"], text ";"],
  lines [
    "",
    "function describeAuthError(operation, error) \x7b",
    "  const known = AUTH_MESSAGES[operation] || \x7b\x7d;",
    "  if (error && error.code && known[error.code]) return known[error.code];"],
  row [text "  return (error && error.message) || ", script ["generic_auth_message"], text ";"],
  lines [
    "\x7d",
    "",
    "function toSessionUser(firebaseUser) \x7b",
    "  return \x7b",
    "    uid: firebaseUser.uid,",
    "    email: firebaseUser.email,",
    "    emailVerified: firebaseUser.emailVerified,",
    "    displayName: firebaseUser.displayName,",
    "    photoURL: firebaseUser.photoURL,",
    "    metadata: \x7b",
    "      creationTime: firebaseUser.metadata ? firebaseUser.metadata.creationTime : null,",
    "      lastSignInTime: firebaseUser.metadata ? firebaseUser.metadata.lastSignInTime : null,",
    "    \x7d,",
    "  \x7d;",
    "\x7d",
    "",
    "function noCurrentUser() \x7b",
    "  const error = new Error('No authenticated user');",
    "  error.code = 'auth/no-current-user';",
    "  return error;",
    "\x7d",
    ""]]

/-- The state of authentication. -/
def authState : Template := sequence [
  row [text "function bindAuth(currentUser", when (.path ["profile"]) [text ", profiles"],
    text ") \x7b"],
  lines [
    "  const authLoading = ref(false);",
    "  const authError = ref(null);",
    "  const authInitialized = ref(false);",
    "  const emailVerificationSent = ref(false);",
    "  let sessionReady = null;",
    "",
    "  async function run(operation, task) \x7b",
    "    authLoading.value = true;",
    "    authError.value = null;",
    "    try \x7b",
    "      return ok(await task());",
    "    \x7d catch (cause) \x7b",
    "      authError.value = \x7b",
    "        kind: ErrorKind.AUTH,",
    "        code: (cause && cause.code) || null,",
    "        message: describeAuthError(operation, cause),",
    "        cause,",
    "      \x7d;",
    "      return \x7b ok: false, data: null, error: authError.value \x7d;",
    "    \x7d finally \x7b",
    "      authLoading.value = false;",
    "    \x7d",
    "  \x7d",
    "",
    "  async function loadProfile(user) \x7b"],
  when (.path ["profile"]) [
    lines [
      "    const result = await profiles.get(user.uid);",
      "    if (result.ok && result.data) return \x7b ...user, ...result.data \x7d;",
      "    if (!result.ok) console.warn('[auth] profile lookup failed:', result.error.message);"]],
  lines [
    "    return user;",
    "  \x7d"],
  when (.path ["profile"]) [
    lines [
      "",
      "  function unwrap(result) \x7b",
      "    if (!result.ok) throw result.error.cause;",
      "    return result.data;",
      "  \x7d"]],
  lines [""]]

/-- Signing in, up and out. -/
def signing : Template := sequence [
  lines [
    "  return \x7b",
    "    authLoading,",
    "    authError,",
    "    authInitialized,",
    "    emailVerificationSent,",
    "",
    "    login: (email, password) =>",
    "      run('login', async () => \x7b",
    "        const credential = await signInWithEmailAndPassword(auth, email, password);",
    "        currentUser.value = await loadProfile(toSessionUser(credential.user));",
    "        return currentUser.value;",
    "      \x7d),",
    "",
    "    signUp: (email, password, profileData = \x7b\x7d, sendVerification = true) =>",
    "      run('signUp', async () => \x7b",
    "        const credential = await createUserWithEmailAndPassword(auth, email, password);",
    "        const \x7b displayName = null, photoURL = null \x7d = profileData;",
    "        if (displayName || photoURL) \x7b",
    "          await updateAuthProfile(credential.user, \x7b displayName, photoURL \x7d);",
    "        \x7d",
    "        if (sendVerification) \x7b",
    "          await sendEmailVerification(credential.user);",
    "          emailVerificationSent.value = true;",
    "        \x7d",
    "        currentUser.value = \x7b ...toSessionUser(credential.user), ...profileData \x7d;"],
  when (.path ["profile"]) [
    lines [
      "        unwrap(",
      "          await profiles.add(\x7b ...profileData, email: credential.user.email \x7d, credential.user.uid),",
      "        );"]],
  lines [
    "        return currentUser.value;",
    "      \x7d),",
    "",
    "    logout: () =>",
    "      run('logout', async () => \x7b",
    "        await signOut(auth);",
    "        currentUser.value = null;",
    "        emailVerificationSent.value = false;",
    "        return null;",
    "      \x7d),",
    "",
    "    sendPasswordReset: (email) =>",
    "      run('sendPasswordReset', async () => \x7b",
    "        await sendPasswordResetEmail(auth, email);",
    "        return email;",
    "      \x7d),",
    ""]]

/-- The account of the user and the start of a session. -/
def account : Template := sequence [
  lines [
    "    updateProfile: (profileData) =>",
    "      run('updateProfile', async () => \x7b",
    "        if (!auth.currentUser) throw noCurrentUser();",
    "        const authFields = \x7b\x7d;",
    "        if ('displayName' in profileData) authFields.displayName = profileData.displayName;",
    "        if ('photoURL' in profileData) authFields.photoURL = profileData.photoURL;",
    "        if (Object.keys(authFields).length > 0) \x7b",
    "          await updateAuthProfile(auth.currentUser, authFields);",
    "        \x7d"],
  when (.path ["profile"]) [
    lines ["        unwrap(await profiles.update(auth.currentUser.uid, profileData));"]],
  lines [
    "        currentUser.value = \x7b ...currentUser.value, ...profileData \x7d;",
    "        return currentUser.value;",
    "      \x7d),",
    "",
    "    changePassword: (currentPassword, newPassword) =>",
    "      run('changePassword', async () => \x7b",
    "        const user = auth.currentUser;",
    "        if (!user) throw noCurrentUser();",
    "        const credential = EmailAuthProvider.credential(user.email, currentPassword);",
    "        await reauthenticateWithCredential(user, credential);",
    "        await updatePassword(user, newPassword);",
    "        return true;",
    "      \x7d),",
    "",
    "    initSession() \x7b",
    "      if (!sessionReady) \x7b",
    "        sessionReady = new Promise((resolve) => \x7b",
    "          onAuthStateChanged(auth, async (firebaseUser) => \x7b",
    "            currentUser.value = firebaseUser ? await loadProfile(toSessionUser(firebaseUser)) : null;",
    "            authInitialized.value = true;",
    "            resolve(currentUser.value);",
    "          \x7d);",
    "        \x7d);",
    "      \x7d",
    "      return sessionReady;",
    "    \x7d,",
    "",
    "    resendVerificationEmail: () =>",
    "      run('resendVerificationEmail', async () => \x7b",
    "        if (!auth.currentUser) throw noCurrentUser();",
    "        await sendEmailVerification(auth.currentUser);",
    "        emailVerificationSent.value = true;",
    "        return true;",
    "      \x7d),",
    "  \x7d;",
    "\x7d"]]

/-! ## Collections -/

/-- The function that binds a collection. -/
def binding : Template := sequence [
  lines [""],
  row [text "function ", value ["n", "binding_function"], text "(session) \x7b"],
  row [text "  const actions = ", value ["n", "actions_factory"], text "(session);"],
  row [text "  const ", value ["n", "page_state"], text " = ref(emptyPage());"],
  row [text "  const ", value ["n", "search_state"], text " = ref(emptySearch());"],
  row [text "  const ", value ["n", "loading_state"], text " = ref(false);"],
  row [text "  const ", value ["n", "error_state"], text " = ref(null);"],
  row [text "  const track = tracker(", value ["n", "loading_state"], text ", ",
    value ["n", "error_state"], text ");"],
  lines [
    "",
    "  async function fetchPage(options = \x7b\x7d) \x7b"],
  row [text "    const page = ", value ["n", "page_state"], text ".value;"],
  lines [
    "    const result = await track(() =>",
    "      actions.fetchInitialPage(\x7b",
    "        filters: options.filters ?? page.filters,",
    "        orderBy: options.orderBy ?? page.orderBy,",
    "        pageSize: options.pageSize ?? page.pageSize ?? undefined,",
    "      \x7d),",
    "    );"],
  row [text "    if (result.ok) ", value ["n", "page_state"], text ".value = result.data;"],
  lines [
    "    return result;",
    "  \x7d",
    "",
    "  return \x7b"],
  row [text "    ", value ["n", "page_state"], text ","],
  row [text "    ", value ["n", "search_state"], text ","],
  row [text "    ", value ["n", "loading_state"], text ","],
  row [text "    ", value ["n", "error_state"], text ","],
  row [text "    ", value ["n", "fetch_action"], text ": fetchPage,"],
  row [text "    async ", value ["n", "fetch_more_action"], text "() \x7b"],
  row [text "      const result = await track(() => actions.fetchNextPage(",
    value ["n", "page_state"], text ".value));"],
  row [text "      if (result.ok && result.data) ", value ["n", "page_state"],
    text ".value = result.data;"],
  lines [
    "      return result;",
    "    \x7d,"],
  row [text "    ", value ["n", "get_action"], text ": (id) => track(() => actions.get(id)),"],
  row [text "    ", value ["n", "add_action"], text ": (data) => track(() => actions.add(data)),"],
  row [text "    ", value ["n", "update_action"],
    text ": (id, data) => track(() => actions.update(id, data)),"],
  row [text "    async ", value ["n", "delete_action"], text "(id) \x7b"],
  lines [
    "      const result = await track(() => actions.remove(id));",
    "      if (result.ok) \x7b"],
  row [text "        const page = ", value ["n", "page_state"], text ".value;"],
  row [text "        ", value ["n", "page_state"],
    text ".value = \x7b ...page, items: page.items.filter((item) => item.id !== id) \x7d;"],
  lines [
    "      \x7d",
    "      return result;",
    "    \x7d,"],
  row [text "    async ", value ["n", "search_action"], text "(term, field = undefined) \x7b"],
  row [text "      const result = await track(() => actions.search(term, field, ",
    value ["n", "page_state"], text ".value.filters));"],
  row [text "      if (result.ok) ", value ["n", "search_state"],
    text ".value = \x7b ...result.data, isActive: true \x7d;"],
  lines [
    "      return result;",
    "    \x7d,"],
  row [text "    ", value ["n", "apply_filters_action"],
    text ": (filters = \x7b\x7d) => fetchPage(\x7b filters \x7d),"],
  row [text "    ", value ["n", "change_sorting_action"], text ": (field, direction = 'asc') =>"],
  lines ["      fetchPage(\x7b orderBy: field ? \x7b field, direction \x7d : null \x7d),"],
  row [text "    ", value ["n", "clear_search_action"], text "() \x7b"],
  row [text "      ", value ["n", "search_state"], text ".value = emptySearch();"],
  lines ["    \x7d,"],
  row [text "    ", value ["n", "count_action"], text ": (filters = undefined) =>"],
  row [text "      track(() => actions.count(filters ?? ", value ["n", "page_state"],
    text ".value.filters)),"],
  when (.path ["binding", "role_gated"]) [
    row [text "    ", value ["n", "assign_roles_action"],
      text ": (id, roles) => track(() => actions.assignRoles(id, roles)),"],
    row [text "    ", value ["n", "revoke_roles_action"],
      text ": (id, roles) => track(() => actions.revokeRoles(id, roles)),"]],
  lines [
    "  \x7d;",
    "\x7d"]]

/-! ## The store -/

/-- The session of the user, and the activity if it is recorded. -/
def session : Template := sequence [
  lines [""],
  row [text "export const ", value ["store", "hook"], text " = defineStore(",
    script ["store", "store_name"], text ", () => \x7b"],
  lines [
    "  const currentUser = ref(null);",
    "  const session = \x7b currentUser: () => currentUser.value \x7d;",
    "  const isAuthenticated = computed(() => currentUser.value !== null);",
    "  const hasRole = (role) =>",
    "    Boolean(currentUser.value && Array.isArray(currentUser.value.roles) && currentUser.value.roles.includes(role));"],
  when (.path ["activity_logging"]) [
    lines [
      "",
      "  const recentActivity = ref([]);",
      "  const watchRecentActivity = (options = \x7b\x7d) =>",
      "    initRecentActivityListener((entries) => \x7b",
      "      recentActivity.value = entries;",
      "    \x7d, options);",
      "  const stopRecentActivity = () => cleanupActivityListener();"]]]

/-- The keys of the store. -/
def keys : Template := sequence [
  lines [
    "",
    "  return \x7b",
    "    currentUser,",
    "    isAuthenticated,",
    "    hasRole,"],
  when (.path ["auth_enabled"]) [
    row [text "    ...bindAuth(currentUser",
      when (.path ["profile"]) [text ", ", value ["profile", "actions_factory"], text "(session)"],
      text "),"]],
  when (.path ["roles"]) [
    lines ["    availableRoles: ROLES,"]],
  when (.path ["activity_logging"]) [
    lines [
      "    recentActivity,",
      "    watchRecentActivity,",
      "    stopRecentActivity,"]],
  forEach "binding" (.path ["bindings"]) [
    row [text "    ...", value ["binding", "names", "binding_function"], text "(session),"]],
  lines [
    "  \x7d;",
    "\x7d);"]]

/-! ## The module -/

/-- The text of the module. -/
def template : Template := sequence [
  imports,
  helpers,
  when (.path ["auth_enabled"]) [authHelpers, authState, signing, account],
  forEach "binding" (.path ["bindings"]) [bind "n" (.path ["binding", "names"]) binding],
  session,
  keys]

end Scaffold.StoreModule
